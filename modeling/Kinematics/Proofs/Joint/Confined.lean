import Kinematics.Proofs.Joint.Operation
import Kinematics.Random

/-!
# Confined joint projections

As with Cartesian projections, projecting a confined projection once more changes nothing: it has
the type of its field, and all numbers of the other fields are zero. Changes keep projections
confined, whether they are refused or not, and operations yield confined projections.
-/

namespace Kinematics

namespace JointValues
variable {α : Type} [Scalar α]

theorem get_restrict (v : JointValues α) (fields : List JointField) (field : JointField) :
    (v.restrict fields).get field =
      if field ∈ fields then v.get field else (v.get field).map fun _ => 0 := by
  rw [restrict, mapFields, get_build]

theorem restrict_eq_self_iff {v : JointValues α} {fields : List JointField} :
    v.restrict fields = v ↔ ∀ field, field ∉ fields → ∀ x ∈ v.get field, x = 0 := by
  have hzero (xs : List α) : (xs.map fun _ => 0) = xs ↔ ∀ x ∈ xs, x = 0 := by
    rw [← List.map_id xs, List.map_map, List.map_inj_left]
    simp [eq_comm]
  constructor
  · intro h field hout
    have hfield := get_restrict v fields field
    rw [h, if_neg hout] at hfield
    exact (hzero _).mp hfield.symm
  · intro h
    apply ext_get
    intro field
    rw [get_restrict]
    exact ite_eq_left_iff.mpr fun hout => (hzero _).mpr (h field hout)

@[simp] theorem restrict_restrict (v : JointValues α) (fields : List JointField) :
    (v.restrict fields).restrict fields = v.restrict fields := by
  rw [restrict_eq_self_iff]
  intro field hout x hx
  rw [get_restrict, if_neg hout] at hx
  obtain ⟨-, -, rfl⟩ := List.mem_map.mp hx
  rfl

theorem restrict_zeros (size : Nat) (fields : List JointField) :
    (zeros size : JointValues α).restrict fields = zeros size := by
  rw [restrict_eq_self_iff]
  intro field _ x hx
  rw [zeros, get_build] at hx
  exact List.eq_of_mem_replicate hx

theorem restrict_set {v : JointValues α} {fields : List JointField} (hv : v.restrict fields = v)
    {field : JointField} (hin : field ∈ fields) (xs : List α) :
    (v.set field xs).restrict fields = v.set field xs := by
  rw [restrict_eq_self_iff] at hv ⊢
  intro other hout x hx
  have hne : other ≠ field := by
    rintro rfl
    exact hout hin
  rw [set, get_build, if_neg hne] at hx
  exact hv other hout x hx

theorem restrict_write {v : JointValues α} {fields : List JointField} (hv : v.restrict fields = v)
    {written : List JointField} (hsub : written ⊆ fields) (size : Nat) (data : List α) :
    (v.write size written data).restrict fields = v.write size written data := by
  induction written generalizing data v with
  | nil => exact hv
  | cons field written ih =>
    obtain ⟨hin, hsub⟩ := List.cons_subset.mp hsub
    exact ih (restrict_set hv hin _) hsub _

end JointValues

namespace JointProjection
variable {α : Type} [Scalar α] {field : JointField} {p q : JointProjection α field}

/-- Projecting once more changes nothing. -/
def Confined (p : JointProjection α field) : Prop := p.general.project field = p

theorem confined_iff :
    p.Confined ↔
      p.general.type = field.type ∧ p.general.values.restrict [field] = p.general.values := by
  constructor
  · intro h
    have hgeneral : (p.general.project field).general = p.general := congrArg general h
    exact ⟨(congrArg (·.type) hgeneral).symm, congrArg (·.values) hgeneral⟩
  · rintro ⟨htype, hvalues⟩
    rw [Confined, JointState.project, hvalues, ← htype]

theorem confined_project (s : JointState α) : (s.project field).Confined :=
  confined_iff.mpr ⟨rfl, JointValues.restrict_restrict _ _⟩

theorem confined_new (name : String) (names : List String) (now : Instant) :
    (new field name names now : JointProjection α field).Confined :=
  confined_iff.mpr ⟨rfl, JointValues.restrict_zeros _ _⟩

namespace Confined

theorem type_eq (h : p.Confined) : p.general.type = field.type := (confined_iff.mp h).1

theorem eq_zero (h : p.Confined) {other : JointField} (hother : other ≠ field) :
    ∀ x ∈ p.general.values.get other, x = 0 :=
  JointValues.restrict_eq_self_iff.mp (confined_iff.mp h).2 other (by simpa using hother)

/-- Names, emptiness and instants are not asked about. -/
theorem of_values_eq (h : p.Confined) (htype : q.general.type = p.general.type)
    (hvalues : q.general.values = p.general.values) : q.Confined := by
  rw [confined_iff, htype, hvalues]
  exact confined_iff.mp h

theorem setZero (h : p.Confined) : p.setZero.Confined := by
  refine confined_iff.mpr ⟨h.type_eq, JointValues.restrict_eq_self_iff.mpr ?_⟩
  intro other _ x hx
  change x ∈ (p.general.values.mapFields fun _ xs => xs.map fun _ => 0).get other at hx
  rw [JointValues.mapFields, JointValues.get_build] at hx
  obtain ⟨-, -, rfl⟩ := List.mem_map.mp hx
  rfl

theorem of_rewritten (h : p.Confined) (hq : p.general.Rewritten field.selection q.general) :
    q.Confined := by
  obtain ⟨data, -, ht⟩ := hq
  rw [confined_iff, ht]
  rw [confined_iff] at h
  exact ⟨h.1, JointValues.restrict_write h.2 (by simp) _ _⟩

theorem of_rewrittenAt (h : p.Confined) {x : α}
    (hq : p.general.RewrittenAt field x q.general) : q.Confined := by
  obtain ⟨index, -, ht⟩ := hq
  rw [confined_iff, ht]
  rw [confined_iff] at h
  exact ⟨h.1, JointValues.restrict_set h.2 (List.mem_singleton.mpr rfl) _⟩

/-- All sums and multiples project what the general operation yields. -/
theorem of_project {result : Except (StateError α) (JointState α)}
    (h : (return (← result).project field) = Except.ok p) : p.Confined := by
  cases result with
  | error e => cases h
  | ok s =>
    cases h
    exact confined_project s

end Confined

theorem lift_keeps_confined {edit : Edit α (JointState α) Unit}
    (h : ∀ s, edit.Settles s (s.Rewritten field.selection)) :
    (lift edit : Edit α (JointProjection α field) Unit).Keeps Confined :=
  .of_settles fun p hp => (lift_settles (h p.general)).mono fun _ hq => hp.of_rewritten hq

theorem Change.keeps_confined (change : Change α) :
    (change.edit : Edit α (JointProjection α field) Unit).Keeps Confined := by
  refine .of_settles fun p hp => (change.settles p).mono fun q hq => ?_
  cases change with
  | setName | setEmpty | touch =>
    exact hp.of_values_eq (congrArg (·.type) hq) (congrArg (·.values) hq)
  | setNames => exact hp.of_values_eq (congrArg (·.type) hq.2) (congrArg (·.values) hq.2)
  | setZero | clear =>
    exact hp.setZero.of_values_eq (congrArg (·.type) hq) (congrArg (·.values) hq)
  | setValueAt | setValue => exact hp.of_rewrittenAt hq
  | setData | clamp | clampEach | clampWith => exact hp.of_rewritten hq

namespace Operation

theorem confined_of_apply {op : Operation α field} (hp : p.Confined) (h : op.apply p = .ok q) :
    q.Confined := by
  cases op with
  | add | sub | scale | divide => exact .of_project h
  | scaleByMatrix gain =>
    exact (lift_keeps_confined fun _ => JointState.multiply_settles gain _).onCopy hp h
  | scaleEach gain =>
    exact (lift_keeps_confined fun _ => JointState.multiplyEach_settles gain _).onCopy hp h
  | clamped bound ratio => exact (Change.keeps_confined (.clamp bound ratio)).onCopy hp h

end Operation

section Time
variable {target : JointField} {r : JointProjection α target} {now : Instant}

theorem confined_of_carryOver {data : List α} (h : p.carryOver target data now = .ok r) :
    r.Confined :=
  (Change.keeps_confined (.setData data)).onCopy (confined_new _ _ _) h

theorem confined_of_rateOfChange {dt : Duration} (h : p.rateOfChange target dt now = .ok r) :
    r.Confined := by
  obtain ⟨-, -, h⟩ := exists_of_bind_eq_ok h
  obtain ⟨seconds, -, h⟩ := exists_of_bind_eq_ok h
  exact confined_of_carryOver h

theorem confined_of_accumulated {dt : Duration} (h : p.accumulated target dt now = .ok r) :
    r.Confined := by
  obtain ⟨-, -, h⟩ := exists_of_bind_eq_ok h
  exact confined_of_carryOver h

end Time

theorem confined_random {γ : Type} [RandomGen γ] (name : String) (names : List String)
    (now : Instant) (g : γ) :
    ((random field name names now : StateM γ (JointProjection α field)).run g).1.Confined :=
  confined_project _

end JointProjection
end Kinematics
