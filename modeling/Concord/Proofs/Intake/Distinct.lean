import Concord.Proofs.Intake.Reading
import Concord.Proofs.Term.Nesting

/-!
# Distinct variants

Variants that are read from a mapping are filed in a table, where every key
stands once.  So the variants of all terms at any depth of what is read have
keys of their own, unless a term was there before it was read.
-/

namespace Concord

/-! ## Tables without repeated keys -/

namespace Table

variable {κ α : Type} [DecidableEq κ]

theorem insert_of_not_mem
    {table : Table κ α}
    {key : κ}
    (fresh : key ∉ keys table)
    (value : α) :
    table.insert key value = table ++ [(key, value)] := by
  induction table with
  | nil => rfl
  | cons pair rest inductionHypothesis =>
      obtain ⟨other, kept⟩ := pair
      rw [keys, List.map_cons, List.mem_cons, not_or] at fresh
      obtain ⟨different, freshInRest⟩ := fresh
      rw [insert, if_neg (Ne.symm different), inductionHypothesis freshInRest, List.cons_append]

/-- An insertion leaves the keys of a table distinct. -/
theorem nodup_keys_insert
    {table : Table κ α}
    (distinct : (keys table).Nodup)
    (key : κ)
    (value : α) :
    (keys (table.insert key value)).Nodup := by
  induction table with
  | nil => exact List.pairwise_singleton _ key
  | cons pair rest inductionHypothesis =>
      obtain ⟨other, kept⟩ := pair
      obtain ⟨fresh, restDistinct⟩ := List.nodup_cons.mp distinct
      by_cases same : other = key
      · subst same
        rw [insert, if_pos rfl]
        exact distinct
      · rw [insert, if_neg same]
        refine List.nodup_cons.mpr ⟨?_, inductionHypothesis restDistinct⟩
        intro present
        rcases (mem_keys_insert rest key value other).mp present with found | found
        · exact same found
        · exact fresh found

theorem nodup_keys_foldl_insert
    (pairs : List (κ × α))
    {table : Table κ α}
    (distinct : (keys table).Nodup) :
    (keys (pairs.foldl (fun (table : Table κ α) pair => table.insert pair.1 pair.2)
      table)).Nodup := by
  induction pairs generalizing table with
  | nil => exact distinct
  | cons pair rest inductionHypothesis =>
      exact inductionHypothesis (nodup_keys_insert distinct pair.1 pair.2)

/-- A table made of pairs has distinct keys, whatever the pairs. -/
theorem nodup_keys_ofPairs (pairs : List (κ × α)) : (keys (ofPairs pairs)).Nodup :=
  nodup_keys_foldl_insert pairs List.nodup_nil

/-- Pairs with new and distinct keys are put behind a table as they are. -/
theorem foldl_insert_of_nodup
    {table : Table κ α}
    {pairs : List (κ × α)}
    (distinct : (keys (table ++ pairs)).Nodup) :
    pairs.foldl (fun (table : Table κ α) pair => table.insert pair.1 pair.2) table =
      table ++ pairs := by
  induction pairs generalizing table with
  | nil => rw [List.foldl_nil, List.append_nil]
  | cons pair rest inductionHypothesis =>
      obtain ⟨key, value⟩ := pair
      have fresh : key ∉ keys table := by
        intro present
        rw [keys, List.map_append, List.nodup_append] at distinct
        exact distinct.2.2 _ present _ List.mem_cons_self rfl
      have moved : table ++ (key, value) :: rest = (table ++ [(key, value)]) ++ rest := by simp
      rw [moved] at distinct
      rw [List.foldl_cons, insert_of_not_mem fresh, inductionHypothesis distinct, moved]

/-- Pairs without a repeated key are the table that they make. -/
theorem ofPairs_of_nodup
    {pairs : List (κ × α)}
    (distinct : (keys pairs).Nodup) :
    ofPairs pairs = pairs :=
  foldl_insert_of_nodup distinct

/-- Where no key stands twice, every entry is found under its key. -/
theorem get?_of_mem
    {table : Table κ α}
    {key : κ}
    {value : α}
    (distinct : (keys table).Nodup)
    (present : (key, value) ∈ table) :
    table.get? key = some value := by
  induction table with
  | nil => cases present
  | cons pair rest inductionHypothesis =>
      obtain ⟨other, kept⟩ := pair
      obtain ⟨fresh, restDistinct⟩ := List.nodup_cons.mp distinct
      rcases List.mem_cons.mp present with same | later
      · obtain ⟨rfl, rfl⟩ := Prod.mk.inj same
        rw [get?_cons, if_pos rfl]
      · have different : other ≠ key := by
          rintro rfl
          exact fresh (List.mem_map.mpr ⟨_, later, rfl⟩)
        rw [get?_cons, if_neg different, inductionHypothesis restDistinct later]

theorem mem_of_mem_insert
    {table : Table κ α}
    {key : κ}
    {value : α}
    {pair : κ × α}
    (present : pair ∈ table.insert key value) :
    pair ∈ table ∨ pair = (key, value) := by
  induction table with
  | nil => exact .inr (List.mem_singleton.mp present)
  | cons first rest inductionHypothesis =>
      obtain ⟨other, kept⟩ := first
      rw [insert] at present
      split at present
      · rcases List.mem_cons.mp present with same | later
        · exact .inr same
        · exact .inl (List.mem_cons_of_mem _ later)
      · rcases List.mem_cons.mp present with same | later
        · exact .inl (List.mem_cons.mpr (.inl same))
        · exact (inductionHypothesis later).imp_left (List.mem_cons_of_mem _)

theorem mem_of_mem_foldl_insert
    {pairs : List (κ × α)}
    {table : Table κ α}
    {pair : κ × α}
    (present : pair ∈ pairs.foldl
      (fun (table : Table κ α) pair => table.insert pair.1 pair.2) table) :
    pair ∈ table ∨ pair ∈ pairs := by
  induction pairs generalizing table with
  | nil => exact .inl present
  | cons first rest inductionHypothesis =>
      rcases inductionHypothesis present with inTable | inRest
      · rcases mem_of_mem_insert inTable with before | same
        · exact .inl before
        · exact .inr (List.mem_cons.mpr (.inl same))
      · exact .inr (List.mem_cons_of_mem first inRest)

/-- A table made of pairs holds nothing else. -/
theorem mem_of_mem_ofPairs
    {pairs : List (κ × α)}
    {pair : κ × α}
    (present : pair ∈ ofPairs pairs) :
    pair ∈ pairs :=
  (mem_of_mem_foldl_insert present).resolve_left List.not_mem_nil

end Table

/-! ## Distinct variants -/

/-- The variants of a term have keys of their own. -/
def Term.HasDistinctKeys : Term -> Prop
  | .gender _ _ variants | .plural _ _ variants => (Table.keys variants).Nodup
  | _ => True

/-- The variants of all terms at any depth of a body have keys of their own. -/
def Body.HasDistinctKeys (body : Body) : Prop :=
  ∀ content term, body.Holds content term -> term.HasDistinctKeys

/-- The variants of a term and of all terms at any depth of it have keys of their own. -/
structure Term.IsDistinct (term : Term) : Prop where
  /-- The keys of its own variants are distinct. -/
  own : term.HasDistinctKeys
  /-- So are the keys of the variants in every phrase below it. -/
  inside : ∀ phrase ∈ term.phrases, phrase.HasDistinctKeys

/-- A body has distinct keys at any depth exactly if all its terms have. -/
theorem Body.hasDistinctKeys_segments {content : List Segment} :
    (Body.segments content).HasDistinctKeys ↔
      ∀ term, Segment.term term ∈ content -> term.IsDistinct := by
  constructor
  · intro distinct term present
    refine ⟨distinct content term (.here present), ?_⟩
    intro phrase inTerm inner nested held
    exact distinct inner nested (.within present inTerm held)
  · intro distinct inner term held
    rcases reaches_segments.mp held with ⟨rfl, present⟩ | ⟨outer, phrase, present, inTerm, within⟩
    · exact (distinct term present).own
    · exact (distinct outer present).inside phrase inTerm inner term within

/-! ## What is read has distinct variants -/

/-- What is read from a value has variants with keys of their own at any depth. -/
structure Value.GivesDistinctKeys (value : Value) : Prop where
  /-- A term that is read from it has distinct keys at any depth. -/
  term : ∀ term, Term.ofValue value = .ok term -> term.IsDistinct
  /-- A body that is read from it has distinct keys at any depth. -/
  body : ∀ body, Body.ofValue value = .ok body -> body.HasDistinctKeys
  /-- Variants that are read from it have distinct keys, and so has every phrase among them. -/
  variants : ∀ variants, variantTable value = .ok variants ->
    (Table.keys variants).Nodup ∧ ∀ phrase ∈ variants.map Prod.snd, phrase.HasDistinctKeys

theorem Body.hasDistinctKeys_text (content : String) : (Body.text content).HasDistinctKeys := by
  intro inner term held
  cases held

theorem Body.hasDistinctKeys_tag (kind : TermKind) : (Body.tag kind).HasDistinctKeys := by
  intro inner term held
  cases held

section

variable {value : Value} (parts : ∀ part ∈ value.parts, part.GivesDistinctKeys)

include parts

/-- If all terms that are read inside have distinct keys, so has the body. -/
theorem Body.hasDistinctKeys_of_ofValue
    {body : Body}
    (read : Body.ofValue value = .ok body) :
    body.HasDistinctKeys := by
  cases sequence : value.isSequence with
  | true =>
      rw [ofValue_of_isSequence sequence] at read
      obtain ⟨content, contentRead, rfl⟩ := exceptMap_eq_ok_iff.mp read
      rw [hasDistinctKeys_segments]
      intro term present
      obtain ⟨item, inItems, segmentRead⟩ :=
        exists_left_of_forall₂ (segmentsOf_eq_ok_iff.mp contentRead) present
      have inside := Value.mem_parts_of_mem_items inItems
      exact (parts item inside).term term (Segment.ofValue_eq_term_iff.mp segmentRead).2
  | false =>
      rcases ofValue_of_not_isSequence sequence with ⟨kind, plain⟩ | ⟨content, plain⟩ | shown
      · obtain rfl := Except.ok.inj (plain.symm.trans read)
        exact hasDistinctKeys_tag kind
      · obtain rfl := Except.ok.inj (plain.symm.trans read)
        exact hasDistinctKeys_text content
      · rw [shown] at read
        obtain ⟨text, _, rfl⟩ := exceptMap_eq_ok_iff.mp read
        exact hasDistinctKeys_text text

/-- Variants that are read have keys of their own, and so have the phrases inside them. -/
theorem distinct_of_variantTable
    {variants : List (String × Body)}
    (read : variantTable value = .ok variants) :
    (Table.keys variants).Nodup ∧
      ∀ phrase ∈ variants.map Prod.snd, phrase.HasDistinctKeys := by
  rcases variantTable_eq_ok_iff.mp read with ⟨rfl, rfl⟩ | ⟨entries, pairs, rfl, pairsRead, rfl⟩
  · exact ⟨List.nodup_nil, nofun⟩
  · refine ⟨Table.nodup_keys_ofPairs pairs, ?_⟩
    intro phrase present
    obtain ⟨pair, inTable, rfl⟩ := List.mem_map.mp present
    obtain ⟨entry, kept, _, bodyRead⟩ :=
      exists_left_of_forall₂ (variantPairs_eq_ok_iff.mp pairsRead)
        (Table.mem_of_mem_ofPairs inTable)
    have inside := List.mem_map_of_mem (f := Prod.snd) (List.mem_filter.mp kept).1
    exact (parts entry.2 inside).body pair.2 bodyRead

end

section

variable
  {entries : List (Value × Value)}
  (parts : ∀ part ∈ (Value.map entries).parts, part.GivesDistinctKeys)

include parts

theorem Term.isDistinct_of_phrase
    {fallback : Body}
    {variants : List (String × Body)}
    (fallbackGiven : FieldGives entries "def" "default" (.text "") Body.ofValue fallback)
    (variantsGiven : FieldGives entries "v" "forms" [] variantTable variants) :
    (Table.keys variants).Nodup ∧
      ∀ phrase ∈ fallback :: variants.map Prod.snd, phrase.HasDistinctKeys := by
  have fallbackDistinct : fallback.HasDistinctKeys := by
    rcases fallbackGiven.default_or_read with rfl | ⟨value, inside, read⟩
    · exact Body.hasDistinctKeys_text ""
    · exact (parts value inside).body fallback read
  rcases variantsGiven.default_or_read with rfl | ⟨value, inside, read⟩
  · exact ⟨List.nodup_nil, List.forall_mem_cons.mpr ⟨fallbackDistinct, nofun⟩⟩
  · obtain ⟨keysDistinct, phrasesDistinct⟩ := (parts value inside).variants variants read
    exact ⟨keysDistinct, List.forall_mem_cons.mpr ⟨fallbackDistinct, phrasesDistinct⟩⟩

/-- A term that is read from a record has distinct keys at any depth. -/
theorem Term.IsReadFrom.isDistinct
    {term : Term}
    (given : term.IsReadFrom entries) :
    term.IsDistinct := by
  cases term with
  | gender target fallback variants | plural argument fallback variants =>
      obtain ⟨_, _, fallbackGiven, variantsGiven⟩ := given
      obtain ⟨keysDistinct, phrasesDistinct⟩ :=
        Term.isDistinct_of_phrase parts fallbackGiven variantsGiven
      exact ⟨keysDistinct, phrasesDistinct⟩
  | noun ref | modifier ref | counter target | bare kind => exact ⟨trivial, nofun⟩

end

/-- A value without terms that were read before gives variants with keys of their own. -/
theorem Value.givesDistinctKeys (value : Value) :
    value.isUnread = true -> value.GivesDistinctKeys := by
  induction value using Value.nestingOn with
  | step value inductionHypothesis =>
      intro unread
      have parts : ∀ part ∈ value.parts, part.GivesDistinctKeys := by
        intro part inside
        exact inductionHypothesis part inside (isUnread_part unread inside)
      refine ⟨?_, ?_, ?_⟩
      · intro term read
        cases value with
        | term other => cases unread
        | map entries => exact (Term.isReadFrom_of_ofValue read).isDistinct parts
        | _ => cases read
      · intro body read
        exact Body.hasDistinctKeys_of_ofValue parts read
      · intro variants read
        exact distinct_of_variantTable parts read

end Concord
