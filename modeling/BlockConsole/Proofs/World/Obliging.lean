import BlockConsole.Proofs.World.Respond

/-!
# Worlds that refuse nothing

A world is `Obliging` if it is made to refuse no action and to lose no teleport. It acknowledges
every command that can be read back and fills no more blocks than one fill may cover
(`Obliging.outcome_send`), and stays obliging (`Obliging.after`).
-/

namespace BlockConsole

/-- A command is **modest** if it fills no more blocks than one fill may cover. -/
def Command.Modest : Command → Prop
  | .fill start stop _ _ => Box.volume start stop ≤ World.fillLimit
  | _ => True

/-- A world is **obliging** if it refuses no action and loses no teleport. -/
structure World.Obliging (w : World) : Prop where
  failing : w.failing = []
  teleports : w.teleportsLost = false

namespace World

variable {w w' : World}

theorem Alike.obliging (h : Alike w w') (hw : w.Obliging) : w'.Obliging :=
  ⟨h.failing.trans hw.failing, h.teleportsLost.trans hw.teleports⟩

theorem Rebuilt.obliging (h : Rebuilt w w') (hw : w.Obliging) : w'.Obliging :=
  ⟨h.failing.trans hw.failing, h.teleportsLost.trans hw.teleports⟩

namespace Obliging

theorem contains_failing (h : w.Obliging) (k : Action.Kind) : w.failing.contains k = false := by
  rw [h.failing]
  rfl

/-- A command leaves a world obliging. -/
theorem after (h : w.Obliging) (c : Command) : (w.after c).Obliging := by
  cases c with
  | teleport | gameMode => exact ⟨h.failing, h.teleports⟩
  | fill start stop block states => exact (rebuilt_putAll w _ block states).obliging h
  | setBlock pos block states => exact (rebuilt_put w pos block states).obliging h
  | clearInventory => exact h

/-- An obliging world acknowledges a modest command that can be read back. -/
theorem outcome_send (h : w.Obliging) {c : Command} (hc : c.Readable) (hmodest : c.Modest)
    (timeout : Nat) : ∃ a, c.outcome (respond (.send c timeout) w).reply = .ok a := by
  rw [respond_send hc timeout (h.contains_failing .send)]
  cases c with
  | teleport target =>
    have hlost : (w.logged (.teleport target)).teleportsLost = false := h.teleports
    simp only [apply, hlost, Bool.false_eq_true, if_false]
    exact ⟨_, rfl⟩
  | fill start stop block states =>
    have hvolume : ¬fillLimit < Box.volume start stop := UInt64.not_lt.mpr hmodest
    simp only [apply, hvolume, if_false]
    exact ⟨_, rfl⟩
  | gameMode | setBlock | clearInventory => exact ⟨_, rfl⟩

/-- An obliging world lets the player take any hotbar slot in hand that there is. -/
theorem reply_holdSlot (h : w.Obliging) {slot : Nat} (hslot : slot < hotbarSlots) :
    (respond (.holdSlot slot) w).reply = .ok () := by
  have hresp : respond (.holdSlot slot) w = (w.count .holdSlot).respondHold slot :=
    respond_of_not_failing (h.contains_failing .holdSlot)
  rw [hresp, respondHold, if_pos hslot]

end Obliging

end World

end BlockConsole
