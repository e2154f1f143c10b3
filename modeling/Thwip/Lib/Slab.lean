/-
  Thwip.Lib.Slab — slabs, and loops that can fail.

  A slab is a list of entries some of which are vacant; a key stays valid until
  its entry is removed, and a vacant key may be given out again.  `foldlM_ok`
  is the rule for a loop of steps that may stop early: whatever every step keeps
  is kept by the loop.
-/
import Mathlib.Data.List.Basic
import Mathlib.Data.List.GetD
import Mathlib.Algebra.Order.Ring.Nat

namespace Thwip.Lib

variable {α ε σ : Type*}

/-! ## §1. Slabs. -/

/-- Entries by key, `none` where vacant. -/
abbrev Slab (α : Type*) := List (Option α)

def Slab.get (s : Slab α) (key : Nat) : Option α := (s[key]?).join

/-- The number of occupied entries. -/
def Slab.count (s : Slab α) : Nat := s.countP Option.isSome

/-- A vacant key: the offered one if it is vacant, else the first vacant one,
else a new one at the end. -/
def Slab.vacantKey (s : Slab α) (offered : Nat) : Nat :=
  match s[offered]? with
  | some none => offered
  | _ => (s.findIdx? Option.isNone).getD s.length

/-- Fill a vacant key. -/
def Slab.insertAt (s : Slab α) (key : Nat) (a : α) : Slab α :=
  if key < s.length then s.set key (some a) else s ++ [some a]

theorem Slab.lt_of_get {s : Slab α} {key : Nat} {a : α} (h : s.get key = some a) :
    key < s.length := by
  unfold Slab.get at h
  by_contra hge
  rw [List.getElem?_eq_none (Nat.le_of_not_lt hge)] at h
  cases h

theorem Slab.get_set_self {s : Slab α} {key : Nat} (h : key < s.length) (o : Option α) :
    Slab.get (s.set key o) key = o := by
  unfold Slab.get
  rw [List.getElem?_set_self h]
  rfl

theorem Slab.get_set_ne (s : Slab α) {key key' : Nat} (h : key ≠ key') (o : Option α) :
    Slab.get (s.set key o) key' = s.get key' := by
  unfold Slab.get
  rw [List.getElem?_set_ne h]

/-- Writing a vacancy where there is no entry changes nothing. -/
theorem Slab.get_set_none {s : Slab α} {key : Nat} (h : s.get key = none) (key' : Nat) :
    Slab.get (s.set key none) key' = s.get key' := by
  by_cases hkey : key = key'
  · subst hkey
    rcases Nat.lt_or_ge key s.length with hlt | hge
    · rw [Slab.get_set_self hlt, h]
    · rw [List.set_eq_of_length_le hge]
  · exact Slab.get_set_ne s hkey none

theorem Slab.vacantKey_le (s : Slab α) (offered : Nat) : s.vacantKey offered ≤ s.length := by
  unfold Slab.vacantKey
  split
  next h => exact Nat.le_of_lt (List.getElem?_eq_some_iff.mp h).1
  · cases hfind : s.findIdx? Option.isNone with
    | none => exact Nat.le_refl _
    | some i => exact Nat.le_of_lt (List.findIdx?_eq_some_iff_findIdx_eq.mp hfind).1

theorem Slab.get_vacantKey (s : Slab α) (offered : Nat) : s.get (s.vacantKey offered) = none := by
  unfold Slab.get Slab.vacantKey
  split
  next h => rw [h]; rfl
  · cases hfind : s.findIdx? Option.isNone with
    | none =>
        rw [Option.getD_none, List.getElem?_eq_none (Nat.le_refl _)]
        rfl
    | some i =>
        obtain ⟨hlt, hnone, -⟩ := List.findIdx?_eq_some_iff_getElem.mp hfind
        rw [Option.getD_some, List.getElem?_eq_getElem hlt, Option.isNone_iff_eq_none.mp hnone]
        rfl

theorem Slab.get_insertAt_self {s : Slab α} {key : Nat} (h : key ≤ s.length) (a : α) :
    Slab.get (s.insertAt key a) key = some a := by
  unfold Slab.insertAt
  split_ifs with hlt
  · exact Slab.get_set_self hlt _
  · have hkey : key = s.length := by omega
    subst hkey
    simp [Slab.get]

theorem Slab.get_insertAt_ne {s : Slab α} {key key' : Nat} (h : key ≤ s.length)
    (hne : key ≠ key') (a : α) : Slab.get (s.insertAt key a) key' = s.get key' := by
  unfold Slab.insertAt
  split_ifs with hlt
  · exact Slab.get_set_ne s hne _
  · have hkey : key = s.length := by omega
    unfold Slab.get
    rcases Nat.lt_or_ge key' s.length with hlt' | hge
    · rw [List.getElem?_append_left hlt']
    · rw [List.getElem?_eq_none hge, List.getElem?_eq_none (by
        rw [List.length_append, List.length_singleton]
        omega)]

/-- The first entry, and the others. -/
theorem Slab.count_cons (o : Option α) (s : Slab α) :
    Slab.count (o :: s) = s.count + if o.isSome then 1 else 0 := by
  unfold Slab.count
  rw [List.countP_cons]

/-- Where every occupied key was occupied before, there are no more entries. -/
theorem Slab.count_le_of_get : ∀ {s s' : Slab α},
    (∀ key, (s'.get key).isSome = true → (s.get key).isSome = true) → s'.count ≤ s.count
  | _, [], _ => Nat.zero_le _
  | [], o' :: s', h => by
      have hhead := h 0
      have htail : Slab.count s' ≤ Slab.count ([] : Slab α) :=
        Slab.count_le_of_get (fun key hkey => absurd (h (key + 1) hkey) (by simp [Slab.get]))
      cases o' with
      | none => simpa [Slab.count_cons] using htail
      | some a => simp [Slab.get] at hhead
  | o :: s, o' :: s', h => by
      have hhead := h 0
      have htail : Slab.count s' ≤ Slab.count s :=
        Slab.count_le_of_get (fun key hkey => h (key + 1) hkey)
      rw [Slab.count_cons, Slab.count_cons]
      cases o' with
      | none =>
          simp only [Option.isSome_none, Bool.false_eq_true, if_false]
          omega
      | some a =>
          have hsome : o.isSome = true := hhead rfl
          rw [hsome]
          simpa using htail

theorem Slab.count_insertAt_le (s : Slab α) (key : Nat) (a : α) :
    (s.insertAt key a).count ≤ s.count + 1 := by
  unfold Slab.insertAt
  split_ifs with hlt
  · unfold Slab.count
    rw [List.countP_set hlt]
    simp only [Option.isSome_some, if_true]
    omega
  · unfold Slab.count
    simp [List.countP_append]

/-- The occupied entries, each with its weight, taken together. -/
def Slab.total (f : α → Nat) (s : Slab α) : Nat := (s.map (fun o => o.elim 0 f)).sum

/-- A new entry brings its weight, and takes that of the old one with it. -/
theorem Slab.total_set (f : α → Nat) (o : Option α) :
    ∀ {s : Slab α} {key : Nat}, key < s.length →
      Slab.total f (s.set key o) + (s.get key).elim 0 f = s.total f + o.elim 0 f
  | [], key, h => absurd h (Nat.not_lt_zero key)
  | o₀ :: s, 0, _ => by
      simp only [Slab.total, Slab.get, List.set_cons_zero, List.map_cons, List.sum_cons,
        List.getElem?_cons_zero, Option.join_some]
      omega
  | o₀ :: s, key + 1, h => by
      have htail : Slab.total f (s.set key o) + (Slab.get s key).elim 0 f
          = Slab.total f s + o.elim 0 f := Slab.total_set f o (by simpa using h)
      simp only [Slab.total, Slab.get, List.set_cons_succ, List.map_cons, List.sum_cons,
        List.getElem?_cons_succ] at htail ⊢
      omega

/-- Writing a vacancy where there is no entry keeps the total. -/
theorem Slab.total_set_none {s : Slab α} {key : Nat} (h : s.get key = none) (f : α → Nat) :
    Slab.total f (s.set key none) = s.total f := by
  rcases Nat.lt_or_ge key s.length with hlt | hge
  · have hset := Slab.total_set f none hlt
    rw [h] at hset
    exact hset
  · rw [List.set_eq_of_length_le hge]

theorem Slab.total_insertAt {s : Slab α} {key : Nat} (hvacant : s.get key = none)
    (f : α → Nat) (a : α) :
    (s.insertAt key a).total f = s.total f + f a := by
  unfold Slab.insertAt
  split_ifs with hlt
  · have hset := Slab.total_set f (some a) hlt
    rw [hvacant] at hset
    exact hset
  · simp [Slab.total]

theorem Slab.total_le_total {f g : α → Nat} :
    ∀ {s : Slab α}, (∀ key a, s.get key = some a → f a ≤ g a) → s.total f ≤ s.total g
  | [], _ => Nat.le_refl 0
  | o :: s, h => by
      have hhead : o.elim 0 f ≤ o.elim 0 g := by
        cases o with
        | none => exact Nat.le_refl 0
        | some a => exact h 0 a rfl
      have htail : Slab.total f s ≤ Slab.total g s :=
        Slab.total_le_total (fun key a hget => h (key + 1) a hget)
      simp only [Slab.total, List.map_cons, List.sum_cons] at htail ⊢
      omega

/-- What `f` picks of the occupied entries, in the order of their keys. -/
def Slab.select {β : Type*} (f : Nat → α → Option β) (s : Slab α) : List β :=
  s.zipIdx.filterMap (fun entry =>
    match entry.1 with
    | none => none
    | some a => f entry.2 a)

section Select

variable {β : Type*} {f : Nat → α → Option β} {s : Slab α}

theorem Slab.of_mem_select {b : β} (h : b ∈ s.select f) :
    ∃ key a, s.get key = some a ∧ f key a = some b := by
  unfold Slab.select at h
  obtain ⟨⟨entry, key⟩, hmem, hpick⟩ := List.mem_filterMap.mp h
  have hget := List.mem_zipIdx_iff_getElem?.mp hmem
  cases entry with
  | none => cases hpick
  | some a =>
      refine ⟨key, a, ?_, hpick⟩
      unfold Slab.get
      rw [hget]
      rfl

theorem Slab.mem_select {b : β} {key : Nat} {a : α} (hget : s.get key = some a)
    (hpick : f key a = some b) : b ∈ s.select f := by
  unfold Slab.select
  refine List.mem_filterMap.mpr ⟨(some a, key), ?_, hpick⟩
  rw [List.mem_zipIdx_iff_getElem?]
  unfold Slab.get at hget
  simpa [Option.join_eq_some_iff] using hget

/-- Each key is picked at most once. -/
theorem Slab.select_pairwise {r : β → β → Prop}
    (h : ∀ key a b key' a' b', key ≠ key' → f key a = some b → f key' a' = some b' → r b b') :
    (s.select f).Pairwise r := by
  unfold Slab.select
  have hkeys : s.zipIdx.Pairwise (fun entry entry' => entry.2 ≠ entry'.2) := by
    have hnodup : (s.zipIdx.map Prod.snd).Nodup := by
      rw [List.zipIdx_map_snd]
      exact List.nodup_range'
    exact List.pairwise_map.mp hnodup
  refine hkeys.filterMap _ ?_
  rintro ⟨entry, key⟩ ⟨entry', key'⟩ hne b hb b' hb'
  cases entry with
  | none => cases hb
  | some a =>
      cases entry' with
      | none => cases hb'
      | some a' => exact h key a b key' a' b' hne hb hb'

end Select

/-! ## §2. Loops. -/

/-- What holds of the state and the rest of the list before each step holds at
the end of the loop. -/
theorem foldlM_ok {f : σ → α → Except ε σ} (P : List α → σ → Prop)
    (hstep : ∀ x xs s s', P (x :: xs) s → f s x = .ok s' → P xs s') :
    ∀ {xs : List α} {s s' : σ}, P xs s → xs.foldlM f s = .ok s' → P [] s'
  | [], s, s', h, hrun => by
      injection hrun with hrun
      exact hrun ▸ h
  | x :: xs, s, s', h, hrun => by
      rw [List.foldlM_cons] at hrun
      cases hx : f s x with
      | error e =>
          rw [hx] at hrun
          cases hrun
      | ok s₁ =>
          rw [hx] at hrun
          exact foldlM_ok P hstep (hstep x xs s s₁ h hx) hrun

/-- A loop that stops early stops at a step taken from such a state. -/
theorem foldlM_error {f : σ → α → Except ε σ} (P : List α → σ → Prop)
    (hstep : ∀ x xs s s', P (x :: xs) s → f s x = .ok s' → P xs s') :
    ∀ {xs : List α} {s : σ} {e : ε}, P xs s → xs.foldlM f s = .error e →
      ∃ x xs' s', P (x :: xs') s' ∧ f s' x = .error e
  | [], s, e, _, hrun => by cases hrun
  | x :: xs, s, e, h, hrun => by
      rw [List.foldlM_cons] at hrun
      cases hx : f s x with
      | error e' =>
          rw [hx] at hrun
          injection hrun with hrun
          exact ⟨x, xs, s, h, by rw [hx, hrun]⟩
      | ok s₁ =>
          rw [hx] at hrun
          exact foldlM_error P hstep (hstep x xs s s₁ h hx) hrun

/-! ## §3. Tables that grow. -/

section Grow

variable (xs : List α) (key : Nat) (d : α)

/-- Defaults appended up to a key do not show. -/
theorem getD_grow (i : Nat) :
    (if xs.length ≤ key then xs ++ List.replicate (key + 1 - xs.length) d else xs).getD i d
      = xs.getD i d := by
  split_ifs with hle
  · by_cases hlt : i < xs.length
    · rw [List.getD_append _ _ _ _ hlt]
    · rw [List.getD_append_right _ _ _ _ (by omega), List.getD_eq_default xs d (by omega)]
      by_cases hin : i - xs.length < key + 1 - xs.length
      · rw [List.getD_eq_getElem?_getD, List.getElem?_replicate_of_lt hin]
        rfl
      · rw [List.getD_eq_default _ _ (by simpa using Nat.le_of_not_lt hin)]
  · rfl

theorem lt_length_grow :
    key < (if xs.length ≤ key then xs ++ List.replicate (key + 1 - xs.length) d else xs).length := by
  split_ifs with hle
  · simp only [List.length_append, List.length_replicate]
    omega
  · omega

theorem getD_set {ys : List α} (h : key < ys.length) (a : α) (i : Nat) :
    (ys.set key a).getD i d = if key = i then a else ys.getD i d := by
  rw [List.getD_eq_getElem?_getD, List.getElem?_set]
  split_ifs with heq
  · rfl
  · rw [List.getD_eq_getElem?_getD]

end Grow

end Thwip.Lib
