import QuantumKata.Proofs.NearUnitary
import QuantumKata.Proofs.Negation

/-!
# The adjoint of the adjoint of a gate

Fixed gates are partners of each other, an angle that changes its sign twice is the angle it was,
and the inverse of an inverse is the matrix itself.  So two adjoints lead back to a gate, but for
its name: a custom gate bears a mark at the end of its name after one adjoint, and the next one
takes it off again.  The mark is put on where there is none and taken off where there is one,
whoever put it there.  That is an involution on names with one mark and on names without, but a name
that ends in two marks loses one of them to each adjoint and comes back without both.

The gates that are the same after two adjoints are therefore those that do not have such a name.
Floating-point gates are no different, as long as their angles are numbers.
-/

noncomputable section

namespace QuantumKata

namespace Gate

/-! ## The mark at the end of a name -/

/-- A name that ends in two marks of an inverted gate. -/
def EndsInTwoMarks (name : String) : Prop := adjointMark ++ adjointMark <:+ name.toList

theorem toList_toggleMark_of_marked {name : String} {front : List Char}
    (marked : name.toList = front ++ adjointMark) : (toggleMark name).toList = front := by
  have isMarked : adjointMark.isSuffixOf name.toList = true :=
    List.isSuffixOf_iff_suffix.2 ⟨front, marked.symm⟩
  rw [toggleMark, if_pos isMarked, String.toList_ofList, marked, List.length_append,
    Nat.add_sub_cancel, List.take_left]

theorem toList_toggleMark_of_unmarked {name : String} (unmarked : ¬adjointMark <:+ name.toList) :
    (toggleMark name).toList = name.toList ++ adjointMark := by
  rw [toggleMark, if_neg (mt List.isSuffixOf_iff_suffix.1 unmarked), String.toList_ofList]

/-- A name that ends in two marks loses both. -/
theorem toggleMark_twice_of_twoMarks {name : String} {front : List Char}
    (marked : name.toList = front ++ (adjointMark ++ adjointMark)) :
    (toggleMark (toggleMark name)).toList = front := by
  apply toList_toggleMark_of_marked
  apply toList_toggleMark_of_marked
  rw [marked, List.append_assoc]

/-- Any other name gets its mark, or its lack of one, back. -/
theorem toggleMark_twice_of_not_twoMarks {name : String} (once : ¬EndsInTwoMarks name) :
    toggleMark (toggleMark name) = name := by
  apply String.toList_inj.1
  by_cases marked : adjointMark <:+ name.toList
  · rcases marked with ⟨front, isFront⟩
    have toggled := toList_toggleMark_of_marked isFront.symm
    rw [toList_toggleMark_of_unmarked, toggled, isFront]
    rw [toggled]
    -- If what is left of the name were marked as well, the name would end in two marks.
    intro again
    apply once
    rw [EndsInTwoMarks, ← isFront]
    exact List.suffix_append_self_iff.2 again
  · exact toList_toggleMark_of_marked (toList_toggleMark_of_unmarked marked)

theorem toggleMark_twice_iff (name : String) :
    toggleMark (toggleMark name) = name ↔ ¬EndsInTwoMarks name := by
  refine ⟨?_, toggleMark_twice_of_not_twoMarks⟩
  rintro same ⟨front, isFront⟩
  have shorter := toggleMark_twice_of_twoMarks isFront.symm
  rw [same, ← isFront] at shorter
  exact absurd (List.append_right_eq_self.1 shorter) (by decide)

/-! ## Two adjoints of any gate -/

section

variable {R : Type}

/-- A gate that bears its name again after two adjoints: one without a name of its own, or with one
that does not end in two marks. -/
def KeepsName (gate : Gate R) : Prop := gate.kind = .custom → ¬EndsInTwoMarks gate.name

variable [Scalar R] {gate inverse back : Gate R}

theorem adjoint_kind (built : gate.adjoint = .ok inverse) : inverse.kind = gate.kind := by
  cases gate with
  | custom gate =>
    rcases adjoint_custom.1 built with ⟨matrix, found, rfl⟩
    rfl
  | _ =>
    cases built
    rfl

theorem adjoint_angles (built : gate.adjoint = .ok inverse) :
    inverse.angles = gate.angles.map (-·) := by
  cases gate with
  | custom gate =>
    rcases adjoint_custom.1 built with ⟨matrix, found, rfl⟩
    rfl
  | _ =>
    cases built
    rfl

theorem adjoint_name (own : gate.kind = .custom) (built : gate.adjoint = .ok inverse) :
    inverse.name = toggleMark gate.name := by
  cases gate with
  | custom gate =>
    rcases adjoint_custom.1 built with ⟨matrix, found, rfl⟩
    rfl
  | _ => cases own

theorem name_adjoint_adjoint_iff (built : gate.adjoint = .ok inverse)
    (builtBack : inverse.adjoint = .ok back) : back.name = gate.name ↔ gate.KeepsName := by
  by_cases own : gate.kind = .custom
  · rw [adjoint_name ((adjoint_kind built).trans own) builtBack, adjoint_name own built,
      toggleMark_twice_iff]
    exact ⟨fun once _ => once, fun keeps => keeps own⟩
  · refine iff_of_true ?_ fun isCustom => absurd isCustom own
    cases gate with
    | custom gate => exact absurd rfl own
    | fixed gate =>
      cases built
      cases builtBack
      exact congrArg FixedGate.name gate.adjoint_adjoint
    | _ =>
      cases built
      cases builtBack
      rfl

/-- Two adjoints lead to the same gate exactly if its name is kept and its angles, negated twice,
are the same as they were. -/
theorem isSame_adjoint_adjoint_iff (built : gate.adjoint = .ok inverse)
    (builtBack : inverse.adjoint = .ok back) :
    back.isSame gate = true ↔ gate.KeepsName ∧ ∀ angle ∈ gate.angles,
      Scalar.atMost (- -angle) angle = true ∧ Scalar.atMost angle (- -angle) = true := by
  have angles : back.angles = gate.angles.map fun angle => - -angle := by
    rw [adjoint_angles builtBack, adjoint_angles built, List.map_map]
    rfl
  have kinds := (adjoint_kind builtBack).trans (adjoint_kind built)
  have sizes := (adjoint_numQubits builtBack).trans (adjoint_numQubits built)
  have together : ∀ listed : List R, (listed.map fun angle => - -angle).zip listed =
      listed.map fun angle => (- -angle, angle) := by
    intro listed
    induction listed with
    | nil => rfl
    | cons angle rest ih => rw [List.map_cons, List.zip_cons_cons, ih, List.map_cons]
  rw [← name_adjoint_adjoint_iff built builtBack, isSame, angles, kinds, sizes, together]
  simp

/-- Nothing but a custom gate can fail to have an adjoint. -/
theorem exists_adjoints_of_ne_custom (own : gate.kind ≠ .custom) :
    ∃ inverse back, gate.adjoint = .ok inverse ∧ inverse.adjoint = .ok back := by
  cases gate with
  | custom gate => exact absurd rfl own
  | _ => exact ⟨_, _, rfl, rfl⟩

omit [Scalar R] in
/-- No gate that is built by its name has a matrix of its own. -/
theorem kind_of_named {givenName : String} {angles : List R}
    (made : named givenName angles = .ok gate) : gate.kind ≠ .custom := by
  unfold named at made
  dsimp only at made
  cases isFixed : FixedGate.ofName? (Text.upper givenName) with
  | some own =>
    rw [isFixed] at made
    cases angles with
    | nil =>
      cases made
      nofun
    | cons => cases made
  | none =>
    rw [isFixed] at made
    cases isRotation : Rotation.ofName? (Text.upper givenName) with
    | some axis =>
      rw [isRotation] at made
      rcases angles with _ | ⟨angle, _ | ⟨other, rest⟩⟩ <;> cases made
      nofun
    | none =>
      rw [isRotation] at made
      by_cases isPhase : Text.upper givenName = "GPHASE"
      · rcases angles with _ | ⟨angle, _ | ⟨other, rest⟩⟩ <;>
          simp [isPhase] at made
        subst made
        nofun
      · simp [isPhase] at made

end

/-! ## Two adjoints of an exact gate -/

open SquareMatrix Matrix

/-- The gates that are built by name, as a global phase, or from a matrix that is accepted, whatever
the tolerance is, and can be inverted. -/
inductive IsBuilt : Gate ℝ → Prop where
  | named {gate : Gate ℝ} {givenName : String} {angles : List ℝ}
    (made : named givenName angles = .ok gate) : IsBuilt gate
  | globalPhase (angle : ℝ) : IsBuilt (globalPhase angle)
  | ofTensor {gate : Gate ℝ} {tensor : Tensor ℝ} {givenName : String} {tolerance : ℝ}
    (accepted : ofTensor tensor givenName tolerance = .ok gate)
    (invertible : IsUnit gate.matrix.toMatrix) : IsBuilt gate

theorem IsBuilt.isUnit {own : CustomGate ℝ} (built : IsBuilt (custom own)) :
    IsUnit own.matrix.toMatrix := by
  cases built with
  | named made => exact absurd rfl (kind_of_named made)
  | ofTensor accepted invertible => exact invertible

/-- The conjugate transpose of a unitary matrix undoes it. -/
theorem isInverseOf_of_isAdjointOf {adjoint matrix : SquareMatrix ℝ}
    (conjugate : adjoint.IsAdjointOf matrix) (unitary : matrix.IsUnitary) :
    adjoint.IsInverseOf matrix := by
  refine ⟨conjugate.1, fun row inRows column inColumns => ?_⟩
  rw [← sum_columns_of_unitary unitary inRows inColumns]
  refine Finset.sum_congr rfl fun middle _ => ?_
  rw [conjugate.2]

/-- Two adjoints of a gate exist, and lead back to its matrix. -/
theorem IsBuilt.exists_adjoints {gate : Gate ℝ} (built : gate.IsBuilt) :
    ∃ inverse back, gate.adjoint = .ok inverse ∧ inverse.adjoint = .ok back ∧
      inverse.matrix.IsInverseOf gate.matrix ∧ back.matrix = gate.matrix := by
  cases gate with
  | custom own =>
    have faithful : ∀ vector, own.matrix.toMatrix *ᵥ vector = 0 → vector = 0 := by
      intro vector vanishes
      apply mulVec_injective_of_isUnit built.isUnit
      exact vanishes.trans (mulVec_zero _).symm
    rcases exists_adjoints_of_faithful faithful with
      ⟨inverse, isInverse, undoes, back, isBack, same⟩
    exact ⟨inverse, back, isInverse, isBack, undoes, same⟩
  | fixed gate =>
    have undoes := isInverseOf_of_isAdjointOf gate.adjoint_isAdjointOf gate.matrix_isUnitary
    refine ⟨_, _, rfl, rfl, undoes, ?_⟩
    exact congrArg FixedGate.matrix gate.adjoint_adjoint
  | rotation axis angle =>
    have undoes := isInverseOf_of_isAdjointOf (axis.neg_isAdjointOf angle)
      (axis.matrix_isUnitary angle)
    refine ⟨_, _, rfl, rfl, undoes, ?_⟩
    exact congrArg axis.matrix (neg_neg angle)
  | globalPhase angle =>
    have undoes := isInverseOf_of_isAdjointOf (globalPhase_isAdjointOf angle)
      (isUnitary_globalPhase angle)
    refine ⟨_, _, rfl, rfl, undoes, ?_⟩
    exact congrArg (fun angle => (Gate.globalPhase angle).matrix) (neg_neg angle)

/-- Two adjoints of a floating-point gate lead to the same gate exactly if it keeps its name, and
its angles are numbers.  Computed exactly, both adjoints of a gate that can be built exist, the
first has the inverse matrix, and the second is the same gate in all but its name, with the same
matrix. -/
theorem adjoint_adjoint_same_iff (rounded : Gate Float) (gate : Gate ℝ) :
    ((rounded.kind ≠ .custom →
        ∃ inverse back, rounded.adjoint = .ok inverse ∧ inverse.adjoint = .ok back) ∧
      ∀ inverse back, rounded.adjoint = .ok inverse → inverse.adjoint = .ok back →
        (back.isSame rounded = true ↔
          rounded.KeepsName ∧ ∀ angle ∈ rounded.angles, angle.isNaN = false)) ∧
    (gate.IsBuilt →
      ∃ inverse back, gate.adjoint = .ok inverse ∧ inverse.adjoint = .ok back ∧
        inverse.matrix.IsInverseOf gate.matrix ∧ back.matrix = gate.matrix ∧
        (back.numQubits = gate.numQubits ∧ back.angles = gate.angles ∧ back.kind = gate.kind) ∧
        (back.name = gate.name ↔ gate.KeepsName) ∧
        (back.isSame gate = true ↔ gate.KeepsName)) := by
  constructor
  · refine ⟨exists_adjoints_of_ne_custom, fun inverse back built builtBack => ?_⟩
    rw [isSame_adjoint_adjoint_iff built builtBack]
    refine and_congr_right fun _ => forall₂_congr fun angle _ => ?_
    change decide _ = true ∧ decide _ = true ↔ _
    rw [RealNumber.neg_neg, and_self, decide_eq_true_iff]
    exact RealNumber.le_self_iff angle
  · intro made
    rcases made.exists_adjoints with ⟨inverse, back, built, builtBack, undoes, same⟩
    have angles : back.angles = gate.angles := by
      rw [adjoint_angles builtBack, adjoint_angles built, List.map_map]
      exact List.map_id'' neg_neg gate.angles
    refine ⟨inverse, back, built, builtBack, undoes, same, ⟨?_, angles, ?_⟩, ?_, ?_⟩
    · exact (adjoint_numQubits builtBack).trans (adjoint_numQubits built)
    · exact (adjoint_kind builtBack).trans (adjoint_kind built)
    · exact name_adjoint_adjoint_iff built builtBack
    · rw [isSame_adjoint_adjoint_iff built builtBack]
      refine and_iff_left fun angle _ => ?_
      rw [neg_neg, and_self, Scalar.atMost_iff]

/-- The flip of a qubit is accepted under every name, and can be inverted. -/
theorem ofTensor_flipTensor (givenName : String) :
    ofTensor flipTensor givenName Scalar.defaultTolerance =
      .ok (.custom ⟨givenName, 1, .ofRows 0 1 1 0, rfl⟩) := by
  refine ofTensor_eq_ok_iff.2 ⟨_, rfl, rfl, square?_flipTensor, one_ne_zero, ?_⟩
  refine isUnitary_of_exact (FixedGate.matrix_isUnitary .x) ?_
  rw [tolerated_eq]
  norm_num

theorem isBuilt_flip (givenName : String) :
    IsBuilt (.custom ⟨givenName, 1, .ofRows 0 1 1 0, rfl⟩) :=
  .ofTensor (ofTensor_flipTensor givenName)
    (Unitary.toUnits ⟨_, FixedGate.matrix_isUnitary .x⟩).isUnit

/-- A turn by a floating-point angle, and a flip under a name that bears a mark from the start, are
the same after two adjoints. -/
theorem adjoint_adjoint_same_of_marked :
    (∃ inverse back : Gate Float, (rotation .rx 0.5).adjoint = .ok inverse ∧
      inverse.adjoint = .ok back ∧ back.isSame (rotation .rx 0.5) = true) ∧
    ∃ gate inverse back : Gate ℝ,
      ofTensor flipTensor "U_adj" Scalar.defaultTolerance = .ok gate ∧ gate.IsBuilt ∧
        gate.adjoint = .ok inverse ∧ inverse.adjoint = .ok back ∧ inverse.name = "U" ∧
        back.matrix = gate.matrix ∧ back.isSame gate = true := by
  have both := adjoint_adjoint_same_iff (rotation .rx 0.5)
    (.custom ⟨"U_adj", 1, .ofRows 0 1 1 0, rfl⟩)
  constructor
  · refine ⟨_, _, rfl, rfl, (both.1.2 _ _ rfl rfl).2 ⟨nofun, ?_⟩⟩
    intro angle isAngle
    rw [List.mem_singleton.1 isAngle]
    decide
  · have once : ¬EndsInTwoMarks "U_adj" := by
      unfold EndsInTwoMarks
      decide
    rcases both.2 (isBuilt_flip "U_adj") with
      ⟨inverse, back, built, builtBack, -, matrix, -, -, same⟩
    refine ⟨_, inverse, back, ofTensor_flipTensor "U_adj", isBuilt_flip "U_adj", built, builtBack,
      ?_, matrix, same.2 fun _ => once⟩
    have plain : toggleMark "U_adj" = "U" := by decide
    exact (adjoint_name rfl built).trans plain

/-- A flip under a name that ends in two marks comes back from two adjoints without both. -/
theorem renamed_by_two_adjoints :
    ∃ gate inverse back : Gate ℝ,
      ofTensor flipTensor "U_adj_adj" Scalar.defaultTolerance = .ok gate ∧ gate.IsBuilt ∧
        gate.adjoint = .ok inverse ∧ inverse.adjoint = .ok back ∧ inverse.name = "U_adj" ∧
        back.name = "U" ∧ back.isSame gate = false := by
  rcases (isBuilt_flip "U_adj_adj").exists_adjoints with ⟨inverse, back, built, builtBack, -, -⟩
  have differs : back.isSame (.custom ⟨"U_adj_adj", 1, .ofRows 0 1 1 0, rfl⟩) = false := by
    rw [← Bool.not_eq_true, isSame_adjoint_adjoint_iff built builtBack]
    rintro ⟨keeps, -⟩
    exact keeps rfl ⟨['U'], rfl⟩
  have marked : toggleMark "U_adj_adj" = "U_adj" := by decide
  have plain : toggleMark "U_adj" = "U" := by decide
  have first : inverse.name = "U_adj" := (adjoint_name rfl built).trans marked
  have second := adjoint_name (adjoint_kind built) builtBack
  rw [first, plain] at second
  exact ⟨_, inverse, back, ofTensor_flipTensor _, isBuilt_flip _, built, builtBack, first, second,
    differs⟩

end Gate

end QuantumKata

end
