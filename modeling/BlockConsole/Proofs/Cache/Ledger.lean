import BlockConsole.Proofs.Bench.Course
import BlockConsole.Proofs.Bench.Turn
import BlockConsole.Proofs.Cache.Key

/-!
# The ledger of what was stored

A `Ledger` says which containers were captured, and as which blocks, under an identity. It is all
that the cache is meant to be. `Bench.ledger` writes one along a run: the first successful store
of an identity enters what stood in the center, and emptying the cache wipes the ledger clean. So
an identity is in the ledger if it was stored since the cache was last emptied (`isSome_ledger`),
with what was captured at the first such store (`ledger_eq_some_iff`).
-/

namespace BlockConsole

open Work Console

/-! ### Ledgers -/

/-- A **capture**: a container that the console believed in, and what stood in its place. -/
structure Capture where
  container : Container
  found : Option Block

/-- A **ledger** of captures by identity. -/
abbrev Ledger : Type := Identity → Option Capture

/-- Enters a capture, unless there is one already. -/
def Ledger.enter (m : Ledger) (i : Identity) (cap : Capture) : Ledger :=
  fun j => (m j).or (if j = i then some cap else none)

/-- Entering again changes nothing. -/
theorem Ledger.enter_eq_self {m : Ledger} {i : Identity} (h : (m i).isSome) (cap : Capture) :
    m.enter i cap = m := by
  funext j
  by_cases hj : j = i
  · obtain ⟨cap', hcap'⟩ := Option.isSome_iff_exists.mp h
    simp [enter, hj, hcap']
  · simp [enter, hj]

namespace Bench

/-- What a turn **stores**: if it is a store that succeeds, the identity of the container in the
center and what there is to capture. -/
def stored? (b : Bench World) : Turn → Option (Identity × Capture)
  | .request (.cacheStore customName facing) =>
    match ((Request.cacheStore customName facing).perform b).result with
    | .error _ => none
    | .ok _ => (b.site.console.slot Layout.centerSlot).container?.map fun c =>
      ((Cache.identityOf c customName facing).canonical,
        ⟨c, b.site.world.blockAt b.site.console.center⟩)
  | _ => none

end Bench

/-- The ledger after a turn. -/
def Ledger.after (m : Ledger) (b : Bench World) : Turn → Ledger
  | .request .cacheClear => fun _ => none
  | t => match b.stored? t with
    | none => m
    | some (i, cap) => m.enter i cap

namespace Bench

/-- The ledger after some turns, one after the other. -/
def ledger (b : Bench World) (m : Ledger) : List Turn → Ledger
  | [] => m
  | t :: rest => (b.after t).ledger (m.after b t) rest

/-- The identities that some turns store. -/
def storedIn (b : Bench World) : List Turn → List Identity
  | [] => []
  | t :: rest => ((b.stored? t).map Prod.fst).toList ++ (b.after t).storedIn rest

end Bench

/-- Something happened **since the cache was last emptied**, at a turn that came after some
others. -/
def SinceClear (P : List Turn → Turn → Prop) (turns : List Turn) : Prop :=
  ∃ earlier t later, turns = earlier ++ t :: later ∧ P earlier t ∧ .request .cacheClear ∉ later

namespace Bench

/-- An identity was **stored for good** in some turns: a store of it succeeded since the cache was
last emptied. -/
def StoredForGood (b : Bench World) (turns : List Turn) (i : Identity) : Prop :=
  SinceClear (fun earlier t => ∃ cap, (b.play earlier).stored? t = some (i, cap)) turns

/-- A capture was **stored first** under an identity, which had not been stored for good before. -/
def StoredFirst (b : Bench World) (turns : List Turn) (i : Identity) (cap : Capture) : Prop :=
  SinceClear (fun earlier t =>
    (b.play earlier).stored? t = some (i, cap) ∧ ¬ b.StoredForGood earlier i) turns

theorem stored?_cacheClear (b : Bench World) : b.stored? (.request .cacheClear) = none := rfl

theorem stored?_of_error {b : Bench World} {customName : String} {facing : Option Facing}
    {e : Failure}
    (h : ((Request.cacheStore customName facing).perform b).result = .error e) :
    b.stored? (.request (.cacheStore customName facing)) = none := by
  simp only [stored?, h]

theorem stored?_of_ok {b : Bench World} {customName : String} {facing : Option Facing} {x : Unit}
    {c : Container}
    (h : ((Request.cacheStore customName facing).perform b).result = .ok x)
    (hslot : b.site.console.slot Layout.centerSlot = .container c) :
    b.stored? (.request (.cacheStore customName facing)) =
      some ((Cache.identityOf c customName facing).canonical,
        ⟨c, b.site.world.blockAt b.site.console.center⟩) := by
  simp only [stored?, h, hslot]
  rfl

/-- What is in the ledger after a turn was there before, or was stored by the turn. -/
theorem after_eq_some_iff (m : Ledger) (b : Bench World) (t : Turn) (i : Identity) (cap : Capture) :
    m.after b t i = some cap ↔
      (m i = some cap ∧ t ≠ .request .cacheClear) ∨ (b.stored? t = some (i, cap) ∧ m i = none) := by
  by_cases hclear : t = .request .cacheClear
  · subst hclear
    simp [Ledger.after, stored?_cacheClear]
  · have hafter : m.after b t = match b.stored? t with
        | none => m
        | some (j, cap) => m.enter j cap := by
      unfold Ledger.after
      split
      · exact absurd rfl hclear
      · rfl
    rw [hafter]
    cases hstored : b.stored? t with
    | none => simp [hclear]
    | some entry =>
      obtain ⟨j, cap'⟩ := entry
      have hcomm : (i = j) = (j = i) := propext eq_comm
      simp only [Ledger.enter, Option.or_eq_some_iff, Option.ite_none_right_eq_some,
        Option.some.injEq, Prod.mk.injEq, ne_eq, hclear, not_false_eq_true, and_true, hcomm]
      exact or_congr Iff.rfl and_comm

theorem ledger_concat (b : Bench World) (m : Ledger) (turns : List Turn) (t : Turn) :
    b.ledger m (turns ++ [t]) = (b.ledger m turns).after (b.play turns) t := by
  induction turns generalizing b m with
  | nil => rfl
  | cons u rest ih => exact ih (b.after u) (m.after b u)

theorem sinceClear_iff {P : List Turn → Turn → Prop} {turns : List Turn} :
    SinceClear P turns ↔ Since P (fun t => t ≠ .request .cacheClear) turns := by
  have hlater (later : List Turn) :
      .request .cacheClear ∉ later ↔ ∀ t ∈ later, t ≠ .request .cacheClear :=
    ⟨fun h t ht heq => h (heq ▸ ht), fun h hmem => h _ hmem rfl⟩
  simp only [SinceClear, Since, hlater]

theorem sinceClear_concat {P : List Turn → Turn → Prop} {turns : List Turn} {t : Turn} :
    SinceClear P (turns ++ [t]) ↔
      (SinceClear P turns ∧ t ≠ .request .cacheClear) ∨ P turns t := by
  rw [sinceClear_iff, sinceClear_iff, since_concat]

/-- An identity is in the ledger if it was stored for good. -/
theorem isSome_ledger (b : Bench World) (turns : List Turn) (i : Identity) :
    (b.ledger (fun _ => none) turns i).isSome ↔ b.StoredForGood turns i := by
  induction turns using List.reverseRecOn with
  | nil => simp [ledger, StoredForGood, SinceClear]
  | append_singleton turns t ih =>
    rw [StoredForGood, sinceClear_concat, ← StoredForGood, ← ih, ledger_concat]
    generalize b.ledger (fun _ => none) turns = m
    simp only [Option.isSome_iff_exists, after_eq_some_iff]
    constructor
    · rintro ⟨cap, ⟨hm, hclear⟩ | ⟨hstored, -⟩⟩
      · exact .inl ⟨⟨cap, hm⟩, hclear⟩
      · exact .inr ⟨cap, hstored⟩
    · rintro (⟨⟨cap, hm⟩, hclear⟩ | ⟨cap, hstored⟩)
      · exact ⟨cap, .inl ⟨hm, hclear⟩⟩
      · cases hm : m i with
        | none => exact ⟨cap, .inr ⟨hstored, rfl⟩⟩
        | some cap' =>
          -- It stays, because a turn that stores does not empty the cache.
          refine ⟨cap', .inl ⟨rfl, ?_⟩⟩
          rintro rfl
          exact absurd hstored (by simp [stored?_cacheClear])

/-- What is in the ledger is what was stored first. -/
theorem ledger_eq_some_iff (b : Bench World) (turns : List Turn) (i : Identity) (cap : Capture) :
    b.ledger (fun _ => none) turns i = some cap ↔ b.StoredFirst turns i cap := by
  induction turns using List.reverseRecOn with
  | nil => simp [ledger, StoredFirst, SinceClear]
  | append_singleton turns t ih =>
    have hnone : b.ledger (fun _ => none) turns i = none ↔ ¬ b.StoredForGood turns i := by
      rw [← isSome_ledger, Option.not_isSome_iff_eq_none]
    rw [StoredFirst, sinceClear_concat, ← StoredFirst, ledger_concat, after_eq_some_iff, ih, hnone]

end Bench

end BlockConsole
