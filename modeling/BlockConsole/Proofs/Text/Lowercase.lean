import BlockConsole.Proofs.Text.Blank
import BlockConsole.Text.Lowercase

/-!
# Lower case is final

A character is `settled` if lower-casing leaves it alone wherever it stands. `sound_caseRuns`
checks the whole table: the small form of every capital is settled and not blank. So lower-casing
makes a text of settled characters (`settled_of_mem_lowerAfter`), which is left alone from then on
(`lowercase_of_settled`), and a text that is trimmed stays trimmed. Small forms lie above the
punctuation of ASCII, so lower-casing brings none of it in (`mem_of_mem_lowerAfter`). Without a
capital sigma a text may be lower-cased piece by piece (`lowercase_append`).
-/

namespace BlockConsole.Text

/-- Whether a character is **settled**: it is its own small form, in any word. -/
def settled (c : Char) : Bool :=
  c != '\u03A3' && lowerChar c == [c]

/-- Lower-casing leaves a settled text alone. -/
theorem lowerAfter_of_settled (before : List Char) {cs : List Char}
    (h : ∀ c ∈ cs, settled c = true) : lowerAfter before cs = cs := by
  induction cs generalizing before with
  | nil => rfl
  | cons c rest ih =>
    have hc : c ≠ '\u03A3' ∧ lowerChar c = [c] := by
      simpa [settled] using h c List.mem_cons_self
    rw [lowerAfter, if_neg hc.1, hc.2, ih _ fun d hd => h d (List.mem_cons_of_mem c hd)]
    rfl

theorem lowercase_of_settled {cs : List Char} (h : ∀ c ∈ cs, settled c = true) :
    lowercase cs = cs :=
  lowerAfter_of_settled [] h

/-! ### The table -/

namespace CaseRun

/-- The last code point that a run maps to. -/
def targetLast (r : CaseRun) : Nat := r.target + (r.last - r.first)

/-- No code point that the run `r` maps to is a capital of the run `q`. -/
def misses (r q : CaseRun) : Bool :=
  decide (q.last < r.target) || decide (r.targetLast < q.first) ||
    ((r.step == 2 || r.first == r.last) && q.step == 2 && (r.target + q.first) % 2 == 1)

/-- Closed ranges that small forms stay out of: the blanks, the two letters that lower-casing treats
by themselves, and the code points that are no characters. -/
def avoided : List (Nat × Nat) :=
  [(9, 13), (0x20, 0x20), (0x85, 0x85), (0xA0, 0xA0), (0x130, 0x130), (0x3A3, 0x3A3),
    (0x1680, 0x1680), (0x2000, 0x200A), (0x2028, 0x2029), (0x202F, 0x202F), (0x205F, 0x205F),
    (0x3000, 0x3000), (0xD800, 0xDFFF)]

/-- A run is **sound** if it maps to characters that are settled and not blank. -/
def sound (r : CaseRun) : Bool :=
  decide (r.targetLast < 0x110000) && (r.step == 1 || r.step == 2) &&
    avoided.all (fun a => decide (a.2 < r.target) || decide (r.targetLast < a.1)) &&
    caseRuns.all r.misses

/-- Every run of the table is sound. -/
theorem sound_caseRuns : caseRuns.all sound = true := by decide +kernel

end CaseRun

/-- The capital and its run behind a small form. -/
theorem exists_run_of_smallForm? {runs : List CaseRun} {n m : Nat}
    (h : smallForm? runs n = some m) :
    ∃ r ∈ runs, r.first ≤ n ∧ n ≤ r.last ∧ (n - r.first) % r.step = 0 ∧
      m = r.target + (n - r.first) := by
  induction runs with
  | nil => simp [smallForm?] at h
  | cons r rest ih =>
    rw [smallForm?] at h
    split at h
    · simp at h
    · next hfirst =>
      split at h
      · next hrun =>
        rw [Bool.and_eq_true, decide_eq_true_eq, beq_iff_eq] at hrun
        refine ⟨r, List.mem_cons_self, Nat.le_of_not_lt hfirst, hrun.1, hrun.2, ?_⟩
        exact (Option.some.inj h).symm
      · obtain ⟨q, hq, hrest⟩ := ih h
        exact ⟨q, List.mem_cons_of_mem r hq, hrest⟩

/-- What soundness of the table says of a small form: it lies in no avoided range, and it has no
small form itself. -/
theorem small_smallForm? {n m : Nat} (h : smallForm? caseRuns n = some m) :
    m < 0x110000 ∧ (∀ a ∈ CaseRun.avoided, m < a.1 ∨ a.2 < m) ∧ smallForm? caseRuns m = none := by
  obtain ⟨r, hr, hfirst, hlast, hstep, rfl⟩ := exists_run_of_smallForm? h
  have hsound := List.all_eq_true.mp CaseRun.sound_caseRuns r hr
  simp only [CaseRun.sound, Bool.and_eq_true, decide_eq_true_eq, List.all_eq_true,
    Bool.or_eq_true, beq_iff_eq] at hsound
  obtain ⟨⟨⟨hbound, hrstep⟩, havoid⟩, hmiss⟩ := hsound
  have hle : r.target + (n - r.first) ≤ r.targetLast := by
    rw [CaseRun.targetLast]
    omega
  refine ⟨by omega, fun a ha => ?_, ?_⟩
  · rcases havoid a ha with h | h
    · exact .inr (by omega)
    · exact .inl (by omega)
  · -- A small form of the small form would lie in a run that `r` misses.
    cases hm : smallForm? caseRuns (r.target + (n - r.first)) with
    | none => rfl
    | some m' =>
      obtain ⟨q, hq, hqfirst, hqlast, hqstep, -⟩ := exists_run_of_smallForm? hm
      have := hmiss q hq
      simp only [CaseRun.misses, Bool.or_eq_true, decide_eq_true_eq, Bool.and_eq_true,
        beq_iff_eq] at this
      rcases this with (hlt | hlt) | ⟨⟨hr2, hq2⟩, hodd⟩
      · omega
      · omega
      · rw [hq2] at hqstep
        rcases hr2 with hr2 | hsingle
        · rw [hr2] at hstep
          omega
        · omega

theorem toNat_ofNat {n : Nat} (h : n.isValidChar) : (Char.ofNat n).toNat = n := by
  rw [Char.ofNat, dif_pos h]
  rfl

/-- A character outside the avoided ranges is not blank. -/
theorem isBlank_of_avoided {c : Char}
    (h : ∀ a ∈ CaseRun.avoided, c.toNat < a.1 ∨ a.2 < c.toNat) : isBlank c = false := by
  simp only [CaseRun.avoided, List.forall_mem_cons] at h
  simp only [isBlank, Bool.or_eq_false_iff, Bool.and_eq_false_iff, decide_eq_false_iff_not,
    beq_eq_false_iff_ne]
  omega

/-- The small form of a capital is a settled character that is not blank. -/
theorem settled_smallForm? {n m : Nat} (h : smallForm? caseRuns n = some m) :
    settled (Char.ofNat m) = true ∧ isBlank (Char.ofNat m) = false := by
  obtain ⟨hbound, havoid, hnone⟩ := small_smallForm? h
  have hvalid : m.isValidChar := by
    have := havoid (0xD800, 0xDFFF) (by decide)
    simp only at this
    omega
  have hnat := toNat_ofNat hvalid
  rw [← hnat] at havoid hnone
  refine ⟨?_, isBlank_of_avoided havoid⟩
  generalize Char.ofNat m = c at havoid hnone
  have hsigma : c ≠ '\u03A3' := by
    rintro rfl
    exact absurd (havoid (0x3A3, 0x3A3) (by decide)) (by decide)
  have hdotted : c ≠ '\u0130' := by
    rintro rfl
    exact absurd (havoid (0x130, 0x130) (by decide)) (by decide)
  simp [settled, lowerChar, hsigma, hdotted, hnone]

/-! ### Lower-casing a text -/

/-- The small form of a character outside any word is settled, and it is blank only if the
character is. -/
theorem settled_of_mem_lowerChar {c d : Char} (hc : c ≠ '\u03A3') (h : d ∈ lowerChar c) :
    settled d = true ∧ (isBlank c = false → isBlank d = false) := by
  by_cases hdotted : c = '\u0130'
  · have hforms : ∀ e ∈ ['i', '\u0307'], settled e = true ∧ isBlank e = false := by
      decide +kernel
    rw [lowerChar, if_pos hdotted] at h
    exact (hforms d h).imp_right fun hblank _ => hblank
  · cases hsmall : smallForm? caseRuns c.toNat with
    | some n =>
      simp only [lowerChar, hdotted, hsmall, if_false, List.mem_singleton] at h
      obtain ⟨hset, hblank⟩ := settled_smallForm? hsmall
      exact h ▸ ⟨hset, fun _ => hblank⟩
    | none =>
      have hself : lowerChar c = [c] := by simp [lowerChar, hdotted, hsmall]
      rw [hself, List.mem_singleton] at h
      subst h
      exact ⟨by simp [settled, hc, hself], id⟩

theorem lowerChar_ne_nil (c : Char) : lowerChar c ≠ [] := by
  unfold lowerChar
  split
  · simp
  · split <;> simp

/-- The text begins with the small form of its first character. -/
theorem exists_lowerAfter_cons (before : List Char) (c : Char) (rest : List Char) :
    ∃ piece, lowerAfter before (c :: rest) = piece ++ lowerAfter (c :: before) rest ∧
      piece ≠ [] ∧ ∀ d ∈ piece, settled d = true ∧ (isBlank c = false → isBlank d = false) := by
  by_cases hc : c = '\u03A3'
  · refine ⟨[lowerSigma before rest], by rw [lowerAfter, if_pos hc]; rfl, by simp, ?_⟩
    intro d hd
    rw [List.mem_singleton] at hd
    have hforms : ∀ e ∈ ['\u03C2', '\u03C3'], settled e = true ∧ isBlank e = false := by
      decide +kernel
    have hmem : d ∈ ['\u03C2', '\u03C3'] := by
      rw [hd, lowerSigma]
      split <;> simp
    exact (hforms d hmem).imp_right fun hblank _ => hblank
  · exact ⟨lowerChar c, by rw [lowerAfter, if_neg hc], lowerChar_ne_nil c,
      fun d hd => settled_of_mem_lowerChar hc hd⟩

theorem settled_of_mem_lowerAfter {before cs : List Char} {d : Char}
    (h : d ∈ lowerAfter before cs) : settled d = true := by
  induction cs generalizing before with
  | nil => simp [lowerAfter] at h
  | cons c rest ih =>
    obtain ⟨piece, heq, -, hpiece⟩ := exists_lowerAfter_cons before c rest
    rw [heq, List.mem_append] at h
    rcases h with h | h
    · exact (hpiece d h).1
    · exact ih h

/-- Lower-casing leaves no character out. -/
theorem length_le_lowerAfter (before cs : List Char) :
    cs.length ≤ (lowerAfter before cs).length := by
  induction cs generalizing before with
  | nil => exact Nat.zero_le _
  | cons c rest ih =>
    obtain ⟨piece, heq, hne, -⟩ := exists_lowerAfter_cons before c rest
    have hpiece := List.length_pos_iff.mpr hne
    have hrest := ih (c :: before)
    rw [heq, List.length_append, List.length_cons]
    omega

/-- Lower-casing a text that does not end with a blank gives a text that does not. -/
theorem isBlank_getLast?_lowerAfter {before cs : List Char}
    (h : ∀ c ∈ cs.getLast?, isBlank c = false) :
    ∀ d ∈ (lowerAfter before cs).getLast?, isBlank d = false := by
  induction cs generalizing before with
  | nil => simp [lowerAfter]
  | cons c rest ih =>
    obtain ⟨piece, heq, -, hpiece⟩ := exists_lowerAfter_cons before c rest
    intro d hd
    rw [heq] at hd
    cases rest with
    | nil =>
      rw [lowerAfter, List.append_nil] at hd
      exact (hpiece d (List.mem_of_getLast? hd)).2 (h c rfl)
    | cons c' rest' =>
      -- The last character is one of the small form of the rest.
      obtain ⟨piece', heq', hne', -⟩ := exists_lowerAfter_cons (c :: before) c' rest'
      have hne : lowerAfter (c :: before) (c' :: rest') ≠ [] := by simp [heq', hne']
      rw [Option.mem_def, List.getLast?_append_of_ne_nil _ hne] at hd
      exact ih (fun e he => h e (by simpa using he)) d hd

/-- Lower-casing keeps a text trimmed. -/
theorem Trimmed.lowercase {cs : List Char} (h : Trimmed cs) : Trimmed (lowercase cs) where
  head := by
    cases cs with
    | nil => simp [Text.lowercase, lowerAfter]
    | cons c rest =>
      obtain ⟨piece, heq, hne, hpiece⟩ := exists_lowerAfter_cons [] c rest
      intro d hd
      rw [Text.lowercase, heq, Option.mem_def, List.head?_append_of_ne_nil _ hne] at hd
      exact (hpiece d (List.mem_of_head? hd)).2 (h.head c rfl)
  last := isBlank_getLast?_lowerAfter h.last

/-! ### Nothing low is new -/

/-- No small form lies below the letter `a`. -/
theorem le_smallForm? {n m : Nat} (h : smallForm? caseRuns n = some m) : 0x61 ≤ m := by
  have hruns : caseRuns.all (fun r => decide (0x61 ≤ r.target)) = true := by decide +kernel
  obtain ⟨r, hr, -, -, -, rfl⟩ := exists_run_of_smallForm? h
  have := of_decide_eq_true (List.all_eq_true.mp hruns r hr)
  omega

/-- A character of a small form that lies below the letter `a` was there before. -/
theorem eq_of_mem_lowerChar {c d : Char} (h : d ∈ lowerChar c) (hd : d.toNat < 0x61) : d = c := by
  by_cases hdotted : c = '\u0130'
  · have hforms : ∀ e ∈ ['i', '\u0307'], 0x61 ≤ e.toNat := by decide
    rw [lowerChar, if_pos hdotted] at h
    exact absurd (hforms d h) (Nat.not_le.mpr hd)
  · cases hsmall : smallForm? caseRuns c.toNat with
    | some n =>
      simp only [lowerChar, hdotted, hsmall, if_false, List.mem_singleton] at h
      have hvalid : n.isValidChar := by
        obtain ⟨hbound, havoid, -⟩ := small_smallForm? hsmall
        have := havoid (0xD800, 0xDFFF) (by decide)
        simp only at this
        omega
      rw [h, toNat_ofNat hvalid] at hd
      exact absurd (le_smallForm? hsmall) (Nat.not_le.mpr hd)
    | none => simpa [lowerChar, hdotted, hsmall] using h

/-- Lower-casing a text brings in no character below the letter `a`. -/
theorem mem_of_mem_lowerAfter {before cs : List Char} {d : Char} (h : d ∈ lowerAfter before cs)
    (hd : d.toNat < 0x61) : d ∈ cs := by
  induction cs generalizing before with
  | nil => simp [lowerAfter] at h
  | cons c rest ih =>
    rw [lowerAfter] at h
    split at h
    · have hsigma : 0x61 ≤ (lowerSigma before rest).toNat := by
        rw [lowerSigma]
        split <;> decide
      rcases List.mem_cons.mp h with rfl | h
      · exact absurd hsigma (Nat.not_le.mpr hd)
      · exact List.mem_cons_of_mem c (ih h)
    · rcases List.mem_append.mp h with h | h
      · exact eq_of_mem_lowerChar h hd ▸ List.mem_cons_self
      · exact List.mem_cons_of_mem c (ih h)

/-! ### Without a capital sigma -/

/-- Only the small form of the capital sigma depends on what stands around it. -/
theorem lowerAfter_eq_flatMap {cs : List Char} (h : '\u03A3' ∉ cs) (before : List Char) :
    lowerAfter before cs = cs.flatMap lowerChar := by
  induction cs generalizing before with
  | nil => rfl
  | cons c rest ih =>
    rw [List.mem_cons, not_or] at h
    rw [lowerAfter, if_neg (Ne.symm h.1), ih h.2, List.flatMap_cons]

theorem lowercase_append {as bs : List Char} (ha : '\u03A3' ∉ as) (hb : '\u03A3' ∉ bs) :
    lowercase (as ++ bs) = lowercase as ++ lowercase bs := by
  have hab : '\u03A3' ∉ as ++ bs := by simp [ha, hb]
  rw [lowercase, lowerAfter_eq_flatMap hab, List.flatMap_append, lowercase, lowercase,
    lowerAfter_eq_flatMap ha, lowerAfter_eq_flatMap hb]

end BlockConsole.Text
