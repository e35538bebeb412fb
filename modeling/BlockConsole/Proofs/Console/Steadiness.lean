import BlockConsole.Proofs.Console.Reach

/-!
# Operations that do not give up

An operation of the console gives up where it meets a state of affairs that should be impossible. An
error is no reason to: work is `Steady` if it may end with any result or error but does not give up,
whatever the environment replies. Placing a helper is always steady. Obtaining one is steady while a
slot is left for it (`Console.steady_obtainHelper`), and so is the search for spare slots while
there is one (`Console.steady_requireSpareSlots`).
-/

namespace BlockConsole

open Work Console

variable {W : Type}

/-! ### Steady work -/

namespace Work

variable {α β : Type} {w : Work W Failure α} {f : α → Work W Failure β} {s : Site W}

/-- Work is **steady** at a site if it does not give up there over a broken invariant. -/
def Steady (w : Work W Failure α) (s : Site W) : Prop :=
  ∀ invariant, (w.run s).result ≠ .error (.broken invariant)

theorem Total.steady (h : Total w) (s : Site W) : Steady w s := fun _ => h s _

theorem Steady.bind (hw : Steady w s)
    (hf : ∀ a, (w.run s).result = .ok a → Steady (f a) (w.run s).site) : Steady (w >>= f) s := by
  intro invariant
  rw [run_bind]
  cases h : (w.run s).result with
  | error e =>
    rintro ⟨⟩
    exact hw invariant h
  | ok a => exact hf a h invariant

theorem steady_read {f : Console → Work W Failure α} (h : Steady (f s.console) s) :
    Steady (Work.console >>= f) s := by
  rw [Steady, run_bind_of_ok (run_console s)]
  exact h

theorem steady_refuse (e : ConsoleError) : Steady (refuse e : Work W Failure α) s := by
  simp [Steady]

end Work

/-! ### Steady operations -/

namespace Console

variable {s : Site W}

theorem steady_requireReady : Steady requireReady s := by
  refine steady_read ?_
  split
  · exact total_pure.steady s
  · exact steady_refuse _

theorem steady_slotOf (index : Nat) : Steady (slotOf index) s := by
  rw [slotOf]
  split
  · exact total_pure.steady _
  · exact steady_refuse _

/-- While there is a spare slot, the search for all of them does not give up. -/
theorem steady_requireSpareSlots {includeCenter : Bool}
    (h : s.console.spareSlots includeCenter ≠ []) : Steady (requireSpareSlots includeCenter) s := by
  refine steady_read ?_
  cases hspare : s.console.spareSlots includeCenter with
  | nil => exact absurd hspare h
  | cons i rest => exact total_pure.steady s

variable [Environment W]

theorem steady_act (a : Action) : Steady (act a) s := by
  intro invariant
  rw [run_act]
  cases (Environment.respond a s.world).reply <;> simp

theorem steady_sendChecked (c : Command) (timeout : Nat) : Steady (sendChecked c timeout) s := by
  intro invariant
  rw [run_sendChecked]
  cases c.outcome (Environment.respond (.send c timeout) s.world).reply <;> simp

theorem steady_approach (target : Position) : Steady (approach target) s := by
  refine .bind steady_requireReady fun _ _ => steady_read ?_
  dsimp only
  split
  · exact total_pure.steady _
  · refine .bind (total_log.steady _) fun _ _ => steady_read ?_
    exact .bind (steady_sendChecked _ _) fun _ _ => total_update.steady _

theorem steady_placeHelper (requester : String) (index : Nat) (kind : Helper) (floor : Bool) :
    Steady (placeHelper requester index kind floor) s := by
  refine .bind steady_requireReady fun _ _ => .bind (steady_slotOf index) fun i _ => ?_
  refine steady_read (.bind (steady_approach _) fun _ _ => ?_)
  refine .bind (steady_act _) fun states _ => .bind (total_log.steady _) fun _ _ => ?_
  cases floor with
  | false => exact total_announce.steady _
  | true => exact (total_announce.bind fun _ => total_announce).steady _

/-- While a slot is left for a helper, obtaining one does not give up. -/
theorem steady_obtainHelper (kind : Helper) (h : s.console.claimable? false ≠ none) :
    Steady (obtainHelper kind) s := by
  refine .bind steady_requireReady fun _ _ => ?_
  rw [(requireReady_site s).1]
  refine steady_read ?_
  cases s.console.search? kind.test false with
  | some i => exact total_pure.steady s
  | none =>
    dsimp only
    cases hclaim : s.console.claimable? false with
    | none => exact absurd hclaim h
    | some i => exact .bind (steady_placeHelper _ _ _ _) fun _ _ => total_pure.steady _

end Console

end BlockConsole
