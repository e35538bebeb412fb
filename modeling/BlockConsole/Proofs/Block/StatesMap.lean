import BlockConsole.Proofs.Block.StatesParser
import Mathlib.Data.List.Pairwise

/-!
# Block states as maps

Block states are a map, and their entries are only its representation. What is found under a key
is what was put there last (`get?_ofList`), and block states with the same value under every key
are equal (`ext_get?`), in whatever order their entries came and whatever was overwritten.

Without quotes in the keys and in the text values the canonical form determines the map
(`text_inj`): it is cut into its entries, and every entry into its key and its value. Keys may be
empty here, so this does not go through `parse`, which refuses them.
-/

namespace BlockConsole.BlockStates

theorem eq_of_entries {s t : BlockStates} (h : s.entries = t.entries) : s = t := by
  cases s
  cases t
  simpa using h

/-! ### Look-up -/

/-- Looking a key up finds the first entry with the key. -/
theorem lookup_entry_cons (e : String × StateValue) (es : List (String × StateValue))
    (key : String) :
    (e :: es).lookup key = if key = e.1 then some e.2 else es.lookup key := by
  obtain ⟨k, value⟩ := e
  rw [List.lookup_cons]
  by_cases hkey : key = k
  · simp [hkey]
  · have hbeq : (key == k) = false := beq_eq_false_iff_ne.mpr hkey
    simp [hkey, hbeq]

/-- An insertion is seen under its own key and under no other. -/
theorem lookup_insertEntry (key : String) (value : StateValue) (es : List (String × StateValue))
    (k : String) :
    (insertEntry key value es).lookup k = if k = key then some value else es.lookup k := by
  induction es with
  | nil => rw [insertEntry, lookup_entry_cons]
  | cons e rest ih =>
    rw [insertEntry]
    split
    · rw [lookup_entry_cons]
    · split
      · next heq =>
        rw [lookup_entry_cons, lookup_entry_cons, ← heq]
        by_cases hk : k = key <;> simp [hk]
      · next hne =>
        rw [lookup_entry_cons, lookup_entry_cons, ih]
        by_cases hk : k = key
        · simp [hk, hne]
        · simp [hk]

theorem get?_insert (s : BlockStates) (key : String) (value : StateValue) (k : String) :
    (s.insert key value).get? k = if k = key then some value else s.get? k :=
  lookup_insertEntry key value s.entries k

/-- The value that a list of entries gives to a key: the one that comes last. -/
def lastValue? (es : List (String × StateValue)) (key : String) : Option StateValue :=
  es.reverse.lookup key

theorem ofList_concat (es : List (String × StateValue)) (e : String × StateValue) :
    ofList (es ++ [e]) = (ofList es).insert e.1 e.2 := by
  rw [ofList, List.foldl_append]
  rfl

/-- The map of a list of entries gives to a key what comes last under it. -/
theorem get?_ofList (es : List (String × StateValue)) (key : String) :
    (ofList es).get? key = lastValue? es key := by
  induction es using List.reverseRecOn with
  | nil => rfl
  | append_singleton es e ih =>
    rw [ofList_concat, get?_insert, ih, lastValue?, lastValue?, List.reverse_append,
      List.reverse_singleton, List.singleton_append, lookup_entry_cons]

/-- Every map is that of a list of entries, for example of its own. -/
theorem ofList_entries (s : BlockStates) : ofList s.entries = s := by
  have hofList {es : List (String × StateValue)} (h : es.Pairwise fun a b => a.1 < b.1) :
      (ofList es).entries = es := by
    induction es using List.reverseRecOn with
    | nil => rfl
    | append_singleton es e ih =>
      obtain ⟨hes, -, hlt⟩ := List.pairwise_append.mp h
      rw [ofList_concat]
      show insertEntry e.1 e.2 (ofList es).entries = _
      rw [ih hes]
      exact insertEntry_of_forall_lt fun d hd => hlt d hd e List.mem_cons_self
  exact eq_of_entries (hofList s.ascending)

/-! ### Extensionality -/

/-- Where the keys ascend, an entry is what is found under its key. -/
theorem mem_iff_lookup {es : List (String × StateValue)} (h : es.Pairwise fun a b => a.1 < b.1)
    (e : String × StateValue) : e ∈ es ↔ es.lookup e.1 = some e.2 := by
  induction es with
  | nil => simp
  | cons d rest ih =>
    obtain ⟨hd, hrest⟩ := List.pairwise_cons.mp h
    rw [List.mem_cons, ih hrest, lookup_entry_cons]
    by_cases hkey : e.1 = d.1
    · -- A later entry with this key would lie above itself.
      have hnot : rest.lookup e.1 ≠ some e.2 := by
        rw [ne_eq, ← ih hrest]
        intro hmem
        exact Std.lt_irrefl (hkey ▸ hd e hmem)
      have heq : e = d ↔ d.2 = e.2 := by
        rw [Prod.ext_iff]
        exact ⟨fun h => h.2.symm, fun h => ⟨hkey, h.symm⟩⟩
      rw [if_pos hkey, or_iff_left hnot, heq, Option.some.injEq]
    · have hne : e ≠ d := fun h => hkey (h ▸ rfl)
      simp [hne, hkey]

/-- Block states with the same value under every key are equal. -/
theorem ext_get? {s t : BlockStates} (h : ∀ key, s.get? key = t.get? key) : s = t := by
  have hnodup (u : BlockStates) : u.entries.Nodup :=
    u.ascending.imp fun {a b} (hlt : a.1 < b.1) (heq : a = b) => Std.lt_irrefl (heq ▸ hlt)
  have hperm : s.entries.Perm t.entries := by
    refine (List.perm_ext_iff_of_nodup (hnodup s) (hnodup t)).mpr fun e => ?_
    have hget : s.entries.lookup e.1 = t.entries.lookup e.1 := h e.1
    rw [mem_iff_lookup s.ascending, mem_iff_lookup t.ascending, hget]
  exact eq_of_entries <|
    hperm.eq_of_pairwise (fun a b _ _ hab hba => absurd (Std.lt_trans hab hba) Std.lt_irrefl)
      s.ascending t.ascending

/-! ### The canonical form -/

/-- Block states are **free of quotes** if no key and no text value has a double quote in it. -/
def QuoteFree (s : BlockStates) : Prop :=
  ∀ e ∈ s.entries, '"' ∉ e.1.toList ∧ ∀ t, e.2 = .text t → '"' ∉ t.toList

instance (s : BlockStates) : Decidable s.QuoteFree :=
  inferInstanceAs (Decidable (∀ e ∈ s.entries, _ ∧ _))

/-- Entries without quotes in the key that are written alike are equal. -/
theorem entryChars_inj {d e : String × StateValue} (hd : '"' ∉ d.1.toList)
    (he : '"' ∉ e.1.toList) (h : entryChars d = entryChars e) : d = e := by
  have hcut := cutKey_entryChars hd
  rw [h, cutKey_entryChars he] at hcut
  obtain ⟨hkey, hchars⟩ := Prod.mk.inj (Except.ok.inj hcut)
  -- Reading the value back tells which kind of value it was.
  have hvalue := d.2.readValue_chars
  rw [← hchars, e.2.readValue_chars] at hvalue
  exact Prod.ext (String.toList_inj.mp hkey.symm) (Except.ok.inj hvalue).symm

theorem map_entryChars_inj {ds es : List (String × StateValue)} (hd : ∀ e ∈ ds, '"' ∉ e.1.toList)
    (he : ∀ e ∈ es, '"' ∉ e.1.toList) (h : ds.map entryChars = es.map entryChars) : ds = es := by
  induction ds generalizing es with
  | nil =>
    rw [List.map_nil, eq_comm, List.map_eq_nil_iff] at h
    exact h.symm
  | cons d ds ih =>
    obtain ⟨e, es, rfl, hhead, htail⟩ := List.map_eq_cons_iff.mp h.symm
    rw [List.forall_mem_cons] at hd he
    rw [entryChars_inj hd.1 he.1 hhead.symm, ih hd.2 he.2 htail.symm]

/-- The entries of block states that are free of quotes are pieces of their canonical form. -/
theorem QuoteFree.entryPieces? {s : BlockStates} (h : s.QuoteFree) (hne : s.entries ≠ []) :
    BlockStates.entryPieces? false ([','].intercalate (s.entries.map entryChars)) =
      some (s.entries.map entryChars) := by
  refine entryPieces?_intercalate (by simpa using hne) fun p hp => ?_
  obtain ⟨e, he, rfl⟩ := List.mem_map.mp hp
  exact piece_entryChars (h e he).1 fun t ht => enclosable_of_not_mem ((h e he).2 t ht)

/-- There is something between the brackets exactly if there is an entry. -/
theorem intercalate_entryChars_eq_nil {es : List (String × StateValue)} :
    [','].intercalate (es.map entryChars) = [] ↔ es = [] := by
  cases es with
  | nil => simp
  | cons e rest =>
    cases rest with
    | nil => simp [List.intercalate, entryChars]
    | cons d rest => simp [List.intercalate_cons_cons, entryChars]

/-- Block states that are free of quotes are determined by their canonical form. -/
theorem text_inj {s t : BlockStates} (hs : s.QuoteFree) (ht : t.QuoteFree) :
    s.text = t.text ↔ s = t := by
  refine ⟨fun h => ?_, fun h => h ▸ rfl⟩
  have hwithin := withinBrackets?_chars s
  rw [String.ofList_inj.mp h, withinBrackets?_chars] at hwithin
  have hjoin := Option.some.inj hwithin
  refine eq_of_entries ?_
  by_cases hnil : s.entries = []
  · rw [hnil, List.map_nil, List.intercalate_nil, intercalate_entryChars_eq_nil] at hjoin
    rw [hnil, hjoin]
  · have hnil' : t.entries ≠ [] := by
      rw [ne_eq, ← intercalate_entryChars_eq_nil, hjoin, intercalate_entryChars_eq_nil]
      exact hnil
    have hpieces := hs.entryPieces? hnil
    rw [← hjoin, ht.entryPieces? hnil'] at hpieces
    exact map_entryChars_inj (fun e he => (hs e he).1) (fun e he => (ht e he).1)
      (Option.some.inj hpieces).symm

end BlockConsole.BlockStates
