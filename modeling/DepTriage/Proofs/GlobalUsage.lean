import DepTriage.GlobalUsage

/-! # Recording global usage

What a `GlobalUsage` holds after references were recorded: a name has the strongest access that
any of its references had, and recording never takes anything away. -/

namespace DepTriage

namespace Access

/-- `a ≤ b`: the access `b` is at least as strong as `a`. -/
instance : LE Access := ⟨fun a b => a.join b = b⟩

theorem le_refl (a : Access) : a ≤ a := by
  cases a <;> rfl

theorem le_trans {a b c : Access} (hab : a ≤ b) (hbc : b ≤ c) : a ≤ c := by
  cases a with
  | read => rfl
  | readWrite =>
    have hb : b = .readWrite := hab.symm
    subst hb
    exact hbc

theorem le_antisymm {a b : Access} (hab : a ≤ b) (hba : b ≤ a) : a = b := by
  cases a with
  | read =>
    cases b with
    | read => rfl
    | readWrite => exact nomatch (show Access.readWrite = Access.read from hba)
  | readWrite => exact (show Access.readWrite = b from hab)

theorem le_join_left (a b : Access) : a ≤ a.join b := by
  cases a <;> cases b <;> rfl

theorem join_eq_readWrite {a b : Access} :
    a.join b = .readWrite ↔ a = .readWrite ∨ b = .readWrite := by
  cases a <;> simp [join]

theorem eq_read_of_ne {a : Access} (h : a ≠ .readWrite) : a = .read := by
  cases a with
  | read => rfl
  | readWrite => exact absurd rfl h

end Access

namespace GlobalUsage

/-- `u ≤ v`: every name of `u` is in `v` too, with an access at least as strong. -/
instance : LE GlobalUsage :=
  ⟨fun u v => ∀ name a, u.get? name = some a → ∃ b, v.get? name = some b ∧ a ≤ b⟩

theorem le_refl (u : GlobalUsage) : u ≤ u :=
  fun _ a h => ⟨a, h, a.le_refl⟩

theorem le_trans {u v w : GlobalUsage} (huv : u ≤ v) (hvw : v ≤ w) : u ≤ w := by
  intro name a ha
  obtain ⟨b, hb, hab⟩ := huv name a ha
  obtain ⟨c, hc, hbc⟩ := hvw name b hb
  exact ⟨c, hc, Access.le_trans hab hbc⟩

@[simp] theorem get?_empty (name : String) : ({} : GlobalUsage).get? name = none := by
  simp [get?]

/-! ## One reference -/

/-- A recorded name joins its access to the one it had before. -/
theorem get?_record (u : GlobalUsage) (name other : String) (a : Access) :
    (u.record name a).get? other =
      if name = other then
        some (match u.get? name with
          | some earlier => earlier.join a
          | none => a)
      else u.get? other := by
  have hcompare : compare name other = .eq ↔ name = other := Std.LawfulEqCmp.compare_eq_iff_eq
  refine Std.TreeMap.getElem?_insert.trans ?_
  by_cases h : name = other
  · exact (if_pos (hcompare.2 h)).trans (if_pos h).symm
  · exact (if_neg (mt hcompare.1 h)).trans (if_neg h).symm

/-- Recording a reference only adds to a usage. -/
theorem le_record (u : GlobalUsage) (name : String) (a : Access) : u ≤ u.record name a := by
  intro other b hb
  -- Only the recorded name changes, and it changes to a join with what was there.
  rw [get?_record]
  split
  · next h =>
    subst h
    rw [hb]
    exact ⟨b.join a, rfl, b.le_join_left a⟩
  · exact ⟨b, hb, b.le_refl⟩

theorem get?_record_eq_readWrite {u : GlobalUsage} {name other : String} {a : Access} :
    (u.record name a).get? other = some .readWrite ↔
      u.get? other = some .readWrite ∨ (other, Access.readWrite) = (name, a) := by
  rw [get?_record]
  by_cases h : name = other
  · subst h
    cases hu : u.get? name with
    | none => simp [eq_comm]
    | some earlier => simp [Access.join_eq_readWrite, eq_comm (a := Access.readWrite)]
  · simp [h, Ne.symm h]

theorem get?_record_eq_none {u : GlobalUsage} {name other : String} {a : Access} :
    (u.record name a).get? other = none ↔ u.get? other = none ∧ other ≠ name := by
  rw [get?_record]
  by_cases h : name = other
  · simp [h]
  · simp [h, Ne.symm h]

/-! ## Many references -/

@[simp] theorem recordAll_nil (u : GlobalUsage) : u.recordAll [] = u := rfl

theorem recordAll_append (u : GlobalUsage) (xs ys : List (String × Access)) :
    u.recordAll (xs ++ ys) = (u.recordAll xs).recordAll ys :=
  List.foldl_append

/-- A name is written once one of its references is a write, and stays so. -/
theorem get?_recordAll_eq_readWrite {references : List (String × Access)} {u : GlobalUsage}
    {name : String} :
    (u.recordAll references).get? name = some .readWrite ↔
      u.get? name = some .readWrite ∨ (name, Access.readWrite) ∈ references := by
  induction references generalizing u with
  | nil => simp
  | cons r rs ih =>
    show ((u.record r.1 r.2).recordAll rs).get? name = some .readWrite ↔ _
    rw [ih, get?_record_eq_readWrite, List.mem_cons, or_assoc]

theorem get?_recordAll_eq_none {references : List (String × Access)} {u : GlobalUsage}
    {name : String} :
    (u.recordAll references).get? name = none ↔
      u.get? name = none ∧ ∀ a, (name, a) ∉ references := by
  induction references generalizing u with
  | nil => simp
  -- By induction on the references, with the usage they are recorded in generalized.
  | cons r rs ih =>
    obtain ⟨other, b⟩ := r
    show ((u.record other b).recordAll rs).get? name = none ↔ _
    rw [ih, get?_record_eq_none]
    constructor
    · rintro ⟨⟨hu, hne⟩, hrs⟩
      refine ⟨hu, fun a ha => ?_⟩
      rcases List.mem_cons.1 ha with h | h
      · exact hne (congrArg Prod.fst h)
      · exact hrs a h
    · rintro ⟨hu, h⟩
      refine ⟨⟨hu, ?_⟩, fun a ha => h a (List.mem_cons_of_mem _ ha)⟩
      rintro rfl
      exact h b List.mem_cons_self

/-! ## A list of references on its own -/

theorem get?_ofList_eq_readWrite {references : List (String × Access)} {name : String} :
    (ofList references).get? name = some .readWrite ↔ (name, Access.readWrite) ∈ references := by
  rw [ofList, get?_recordAll_eq_readWrite]
  simp [empty]

theorem get?_ofList_eq_none {references : List (String × Access)} {name : String} :
    (ofList references).get? name = none ↔ ∀ a, (name, a) ∉ references := by
  rw [ofList, get?_recordAll_eq_none]
  simp [empty]

theorem isSome_get?_ofList {references : List (String × Access)} {name : String} :
    ((ofList references).get? name).isSome ↔ ∃ a, (name, a) ∈ references := by
  rw [Option.isSome_iff_ne_none, Ne, get?_ofList_eq_none, Classical.not_forall]
  simp only [Classical.not_not]

/-- A name is read if it has references and none of them is a write. -/
theorem get?_ofList_eq_read {references : List (String × Access)} {name : String} :
    (ofList references).get? name = some .read ↔
      (name, Access.read) ∈ references ∧ (name, Access.readWrite) ∉ references := by
  rw [← get?_ofList_eq_readWrite]
  cases h : (ofList references).get? name with
  | none => simp [get?_ofList_eq_none.1 h]
  | some a =>
    cases a with
    | readWrite => simp
    | read =>
      -- Some reference made the name known, and none of them was a write.
      obtain ⟨a, ha⟩ := isSome_get?_ofList.1 (Option.isSome_of_eq_some h)
      have hw : (name, Access.readWrite) ∉ references := by
        rw [← get?_ofList_eq_readWrite, h]
        simp
      have hread : a = .read := Access.eq_read_of_ne (fun e => hw (e ▸ ha))
      subst hread
      simp [ha]

end GlobalUsage

end DepTriage
