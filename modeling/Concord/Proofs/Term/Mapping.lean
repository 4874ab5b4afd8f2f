import Concord.Proofs.Term.Nesting

/-!
# Rewriting the words of a body

A rewriting of nouns and of modifiers extends to bodies: it reaches the words
of all phrases at any depth and leaves texts, gaps and positions in place.
-/

namespace Concord

/-- What becomes of the nouns and of the modifiers of a body. -/
structure WordMap where
  /-- What takes the place of a noun. -/
  noun : NounTerm -> NounTerm
  /-- What takes the place of a modifier. -/
  modifier : ModifierTerm -> ModifierTerm

mutual

/-- Rewrite the words of a term. -/
def Term.mapWords (words : WordMap) : Term -> Term
  | .noun ref => .noun (words.noun ref)
  | .modifier ref => .modifier (words.modifier ref)
  | .gender target fallback variants =>
      .gender target (Body.mapWords words fallback) (mapVariantWords words variants)
  | .plural argument fallback variants =>
      .plural argument (Body.mapWords words fallback) (mapVariantWords words variants)
  | .counter target => .counter target
  | .bare kind => .bare kind

/-- Rewrite the words of a segment. -/
def Segment.mapWords (words : WordMap) : Segment -> Segment
  | .term content => .term (Term.mapWords words content)
  | .gap => .gap
  | .text content => .text content
  | .tag kind => .tag kind

/-- Rewrite the words of some segments. -/
def mapSegmentWords (words : WordMap) : List Segment -> List Segment
  | [] => []
  | segment :: rest => Segment.mapWords words segment :: mapSegmentWords words rest

/-- Rewrite the words of a body. -/
def Body.mapWords (words : WordMap) : Body -> Body
  | .text content => .text content
  | .tag kind => .tag kind
  | .segments content => .segments (mapSegmentWords words content)

/-- Rewrite the words of the variants of a phrase. -/
def mapVariantWords (words : WordMap) : List (String × Body) -> List (String × Body)
  | [] => []
  | (key, body) :: rest => (key, Body.mapWords words body) :: mapVariantWords words rest

end

variable (words : WordMap)

theorem mapSegmentWords_eq (content : List Segment) :
    mapSegmentWords words content = content.map (Segment.mapWords words) := by
  induction content with
  | nil => rfl
  | cons segment rest inductionHypothesis =>
      rw [mapSegmentWords, inductionHypothesis, List.map_cons]

theorem mapVariantWords_eq (variants : List (String × Body)) :
    mapVariantWords words variants =
      variants.map fun variant => (variant.1, Body.mapWords words variant.2) := by
  induction variants with
  | nil => rfl
  | cons variant rest inductionHypothesis =>
      rw [mapVariantWords, inductionHypothesis, List.map_cons]

theorem Body.mapWords_segments (content : List Segment) :
    Body.mapWords words (.segments content) =
      .segments (content.map (Segment.mapWords words)) := by
  rw [Body.mapWords, mapSegmentWords_eq]

/-- A rewritten variant stands under the key of the original. -/
theorem get?_mapVariantWords (variants : List (String × Body)) (key : String) :
    Table.get? (mapVariantWords words variants) key =
      (Table.get? variants key).map (Body.mapWords words) := by
  induction variants with
  | nil => rfl
  | cons variant rest inductionHypothesis =>
      obtain ⟨name, body⟩ := variant
      rw [mapVariantWords, Table.get?_cons, Table.get?_cons]
      split
      · rfl
      · exact inductionHypothesis

/-- Leave all words as they are. -/
def WordMap.keep : WordMap :=
  ⟨id, id⟩

theorem mapVariantWords_keep
    {variants : List (String × Body)}
    (kept : ∀ phrase ∈ variants.map Prod.snd, Body.mapWords .keep phrase = phrase) :
    mapVariantWords .keep variants = variants := by
  rw [mapVariantWords_eq]
  refine (List.map_congr_left ?_).trans (List.map_id variants)
  intro variant present
  have keptPhrase := kept variant.2 (List.mem_map_of_mem present)
  rw [keptPhrase, id]

theorem Term.mapWords_keep
    {term : Term}
    (kept : ∀ phrase ∈ term.phrases, Body.mapWords .keep phrase = phrase) :
    term.mapWords .keep = term := by
  cases term with
  | gender target fallback variants | plural argument fallback variants =>
      have keptFallback := kept fallback List.mem_cons_self
      have keptVariants : mapVariantWords .keep variants = variants := by
        apply mapVariantWords_keep
        intro phrase present
        exact kept phrase (List.mem_cons_of_mem fallback present)
      rw [mapWords, keptFallback, keptVariants]
  | noun ref | modifier ref | counter target | bare kind => rfl

theorem Segment.mapWords_keep
    {content : List Segment}
    (kept : ∀ term, Segment.term term ∈ content -> term.mapWords .keep = term) :
    content.map (Segment.mapWords .keep) = content := by
  refine (List.map_congr_left ?_).trans (List.map_id content)
  intro segment present
  cases segment with
  | gap | text content | tag kind => rfl
  | term term => rw [Segment.mapWords, kept term present, id]

/-- A rewriting that keeps all words keeps every body. -/
theorem Body.mapWords_keep (body : Body) : body.mapWords .keep = body := by
  induction body with
  | text content => rfl
  | tag kind => rfl
  | segments content inductionHypothesis =>
      rw [mapWords_segments, Segment.mapWords_keep]
      intro term present
      exact Term.mapWords_keep (inductionHypothesis term present)

theorem Term.mapWords_keep_eq (term : Term) : term.mapWords .keep = term :=
  Term.mapWords_keep fun phrase _ => Body.mapWords_keep phrase

theorem Segment.mapWords_keep_eq (segment : Segment) : segment.mapWords .keep = segment := by
  cases segment with
  | gap | text content | tag kind => rfl
  | term term => rw [Segment.mapWords, term.mapWords_keep_eq]

/-- Rewriting fills no gap and opens none. -/
theorem Segment.present?_mapWords (segment : Segment) :
    (Segment.mapWords words segment).present? = segment.present?.map (Segment.mapWords words) := by
  cases segment <;> rfl

/-- A change that fills no gap and opens none keeps every segment at its position. -/
theorem Segment.among_map
    {change : Segment -> Segment}
    (keepsGaps : ∀ segment : Segment, (change segment).present? = segment.present?.map change)
    (content : List Segment)
    (position : Int) :
    Segment.among (content.map change) position =
      (Segment.among content position).map (Option.map change) := by
  unfold Segment.among
  split
  · rfl
  · rw [List.getElem?_map, Except.map]
    cases content[position.toNat]? with
    | none => rfl
    | some segment => simp [keepsGaps]

/-- Rewriting keeps every segment at its position. -/
theorem Segment.among_mapWords (content : List Segment) (position : Int) :
    Segment.among (content.map (Segment.mapWords words)) position =
      (Segment.among content position).map (Option.map (Segment.mapWords words)) :=
  Segment.among_map (Segment.present?_mapWords words) content position

/-- A position points at the rewriting of the segment that stood there. -/
theorem Segment.pointedAt_mapWords (content : List Segment) (position : Option Int) :
    Segment.pointedAt (Segment.among (content.map (Segment.mapWords words))) position =
      (Segment.pointedAt (Segment.among content) position).map
        (Option.map (Segment.mapWords words)) := by
  cases position with
  | none => rfl
  | some index => exact Segment.among_mapWords words content index

end Concord
