import Stencil.Proofs.JsonScalars
import Stencil.Proofs.ValueParts
import Stencil.Value.Text
import Mathlib.Tactic

/-!
# The JSON text of a value read back

The text of a value without doubles is read as one document, and that document
is the value again.  Nothing in the text names the kind of a value: the form of
the JSON tells integers, strings, sequences and mappings apart, the order of the
names is that of the mapping, and the reader goes as deep as the value nests.

Reading takes off a text and leaves what is behind it.  So the texts of items,
joined by commas, are read one after the other, and the same holds of the
entries of a mapping.
-/

namespace Stencil

/-! ## Mappings from ordered pairs -/

namespace Entries

variable {α : Type}

theorem put_of_forall_lt {name : String} {value : α} {entries : Entries α}
    (hbefore : ∀ key ∈ entries.names, key < name) :
    put name value entries = entries ++ [(name, value)] := by
  induction entries with
  | nil => rfl
  | cons entry rest ih =>
      obtain ⟨hkey, hrest⟩ := List.forall_mem_cons.mp hbefore
      have hother : name ≠ entry.1 := by
        rintro rfl
        exact String.lt_irrefl _ hkey
      rw [put, if_neg (String.lt_asymm hkey), if_neg hother, ih hrest,
        List.cons_append]

theorem ofPairs_of_ordered {entries : Entries α} (hordered : entries.Ordered) :
    ofPairs entries = entries := by
  induction entries using List.reverseRecOn with
  | nil => rfl
  | append_singleton front entry ih =>
      simp only [Ordered, names, List.map_append, List.pairwise_append,
        List.map_cons, List.map_nil, List.mem_singleton, forall_eq] at hordered
      obtain ⟨hfront, -, hlast⟩ := hordered
      have hofPairs := ih hfront
      unfold ofPairs at hofPairs ⊢
      rw [List.foldl_append, hofPairs]
      exact put_of_forall_lt hlast

end Entries

/-! ## How deep values nest -/

namespace Value

mutual

/-- The number of sequences and mappings that lie in one another. -/
def depth : Value → ℕ
  | .sequence items => depthOfItems items + 1
  | .mapping entries => depthOfEntries entries + 1
  | _ => 0

def depthOfItems : List Value → ℕ
  | [] => 0
  | item :: rest => max item.depth (depthOfItems rest)

def depthOfEntries : Entries Value → ℕ
  | [] => 0
  | (_, value) :: rest => max value.depth (depthOfEntries rest)

end

end Value

namespace Json

/-! ## Documents of values -/

mutual

def ofValue : Value → Json
  | .null => .null
  | .boolean b => .boolean b
  | .integer n => .number (Number.ofInteger n)
  | .float x => .number (.float x)
  | .string s => .string s
  | .sequence items => .array (ofItems items)
  | .mapping entries => .object (ofEntries entries)

def ofItems : List Value → List Json
  | [] => []
  | item :: rest => ofValue item :: ofItems rest

def ofEntries : Entries Value → List (String × Json)
  | [] => []
  | (name, value) :: rest => (name, ofValue value) :: ofEntries rest

end

mutual

theorem toValue_ofValue {value : Value} (hordered : value.Ordered) :
    toValue (ofValue value) = value := by
  match value with
  | .null | .boolean _ | .float _ | .string _ => rfl
  | .integer n => exact Number.toValue_ofInteger n
  | .sequence items => rw [ofValue, toValue, itemValues_ofItems hordered]
  | .mapping entries =>
      obtain ⟨hnames, hvalues⟩ := hordered
      rw [ofValue, toValue, memberValues_ofEntries hvalues, Value.ofPairs,
        Entries.ofPairs_of_ordered hnames]

theorem itemValues_ofItems {items : List Value}
    (hordered : Value.OrderedItems items) :
    itemValues (ofItems items) = items := by
  match items with
  | [] => rfl
  | item :: rest =>
      obtain ⟨hitem, hrest⟩ := hordered
      rw [ofItems, itemValues, toValue_ofValue hitem, itemValues_ofItems hrest]

theorem memberValues_ofEntries {entries : Entries Value}
    (hordered : Value.OrderedEntries entries) :
    memberValues (ofEntries entries) = entries := by
  match entries with
  | [] => rfl
  | (name, value) :: rest =>
      obtain ⟨hvalue, hrest⟩ := hordered
      rw [ofEntries, memberValues, toValue_ofValue hvalue,
        memberValues_ofEntries hrest]

end

/-! ## Texts in a row -/

theorem skipSpace_cons {c : Char} (hspace : isSpace c = false) (rest : List Char) :
    skipSpace (c :: rest) = c :: rest := by
  rw [skipSpace, List.dropWhile_cons, hspace]
  rfl

/-- The reader takes the text off any text that does not go on with a number. -/
def ReadsAs {α : Type} (item : Reader α) (value : α) (text : List Char) : Prop :=
  ∀ rest, EndsNumber rest → item (text ++ rest) = some (value, rest)

section Lists

variable {α : Type} {item : Reader α} {closing : Char}

theorem endsNumber_flatMap (hclosing : closing = ']' ∨ closing = '\x7d')
    (texts : List (List Char)) (rest : List Char) :
    EndsNumber (texts.flatMap (',' :: ·) ++ closing :: rest) := by
  cases texts with
  | cons text texts => exact endsNumber_cons.mpr (by decide)
  | nil =>
      refine endsNumber_cons.mpr ?_
      rcases hclosing with rfl | rfl <;> decide

theorem isSpace_closing (hclosing : closing = ']' ∨ closing = '\x7d') :
    isSpace closing = false := by
  rcases hclosing with rfl | rfl <;> rfl

theorem readMore_flatMap (hclosing : closing = ']' ∨ closing = '\x7d')
    {values : List α} {texts : List (List Char)}
    (hreads : List.Forall₂ (ReadsAs item) values texts) (seen : List α)
    (rest : List Char) {budget : ℕ}
    (hbudget : (texts.flatMap (',' :: ·)).length < budget) :
    readMore item closing budget seen
        (texts.flatMap (',' :: ·) ++ closing :: rest) =
      some (seen.reverse ++ values, rest) := by
  induction hreads generalizing seen budget with
  | nil =>
      obtain ⟨budget, rfl⟩ := Nat.exists_eq_succ_of_ne_zero hbudget.ne_bot
      simp [readMore, skipSpace_cons (isSpace_closing hclosing)]
  | @cons value text values texts hreads _ ih =>
      obtain ⟨budget, rfl⟩ := Nat.exists_eq_succ_of_ne_zero hbudget.ne_bot
      rw [List.flatMap_cons, List.length_append] at hbudget
      have hseparate : ',' ≠ closing := by
        rcases hclosing with rfl | rfl <;> decide
      have hends := endsNumber_flatMap hclosing texts rest
      -- The comma alone pays for the step.
      have hless : (texts.flatMap (',' :: ·)).length < budget := by
        rw [List.length_cons] at hbudget
        omega
      have hrest := ih (value :: seen) hless
      rw [List.flatMap_cons, List.append_assoc, List.cons_append, readMore]
      simp only [skipSpace_cons (c := ',') rfl, if_neg hseparate, if_true,
        hreads _ hends, hrest, List.reverse_cons, List.append_assoc,
        List.singleton_append]

theorem intercalate_eq_flatMap (text : List Char) (texts : List (List Char)) :
    [','].intercalate (text :: texts) = text ++ texts.flatMap (',' :: ·) := by
  induction texts generalizing text with
  | nil => simp
  | cons next rest ih =>
      rw [List.intercalate_cons_cons, ih, List.flatMap_cons]
      simp

/-- A text whose first character is the first one of some document. -/
def Starts (text : List Char) : Prop :=
  ∃ c rest, text = c :: rest ∧ isSpace c = false ∧ c ≠ ']' ∧ c ≠ '\x7d'

theorem readList_intercalate (hclosing : closing = ']' ∨ closing = '\x7d')
    {values : List α} {texts : List (List Char)}
    (hreads : List.Forall₂ (ReadsAs item) values texts)
    (hstarts : ∀ text ∈ texts, Starts text) (rest : List Char) :
    readList item closing ([','].intercalate texts ++ closing :: rest) =
      some (values, rest) := by
  cases hreads with
  | nil => simp [readList, skipSpace_cons (isSpace_closing hclosing)]
  | @cons value text values texts hread hreads =>
      obtain ⟨c, behind, rfl, hspace, hbracket, hbrace⟩ :=
        hstarts text List.mem_cons_self
      have hopen : c ≠ closing := by
        rcases hclosing with rfl | rfl <;> assumption
      have hends := endsNumber_flatMap hclosing texts rest
      have hfirst := hread _ hends
      have hbudget : (texts.flatMap (',' :: ·)).length <
          (texts.flatMap (',' :: ·) ++ closing :: rest).length + 1 := by
        rw [List.length_append]
        omega
      have hmore := readMore_flatMap hclosing hreads [value] rest hbudget
      rw [intercalate_eq_flatMap, List.append_assoc, List.cons_append, readList,
        skipSpace_cons hspace]
      rw [List.cons_append] at hfirst
      simp only [if_neg hopen, hfirst, hmore, List.reverse_singleton,
        List.singleton_append]

end Lists

/-! ## Scalars -/

theorem readDocument_scalar {c : Char} (hspace : isSpace c = false)
    (hbracket : c ≠ '[') (hbrace : c ≠ '\x7b') (depth : ℕ) (rest : List Char) :
    readDocument depth (c :: rest) = readScalar (c :: rest) := by
  rw [readDocument.eq_def]
  simp only [skipSpace_cons hspace, if_neg hbracket, if_neg hbrace]

theorem readsAs_word {c : Char} {word : List Char} {document : Json}
    (hscalar : ∀ rest, readScalar (c :: rest) = readWord word document rest)
    (hspace : isSpace c = false) (hbracket : c ≠ '[') (hbrace : c ≠ '\x7b')
    (depth : ℕ) : ReadsAs (readDocument depth) document (c :: word) := by
  intro rest _
  have hword : word.isPrefixOf? (word ++ rest) = some rest := by
    simp
  rw [List.cons_append, readDocument_scalar hspace hbracket hbrace, hscalar, readWord,
    hword]
  rfl

theorem readsAs_string (depth : ℕ) (s : String) :
    ReadsAs (readDocument depth) (.string s) (quote s.toList) := by
  intro rest _
  rw [quote_append, readDocument_scalar rfl (by decide) (by decide), readScalar]
  simp [readString_flatMap_escape]

theorem integerDigits_eq_cons (n : ℤ) :
    ∃ c rest, integerDigits n = c :: rest ∧ (c = '-' ∨ c.isDigit = true) := by
  cases n with
  | ofNat m =>
      obtain ⟨c, rest, hdigits⟩ :=
        List.exists_cons_of_ne_nil (Nat.toDigits_ne_nil (n := m) (b := 10))
      exact ⟨c, rest, hdigits,
        .inr (isDigit_of_mem_naturalDigits (hdigits ▸ List.mem_cons_self))⟩
  | negSucc m => exact ⟨'-', _, rfl, .inl rfl⟩

theorem ne_of_numeric {c other : Char} (hc : c = '-' ∨ c.isDigit = true)
    (hminus : other ≠ '-') (hdigit : other.isDigit = false) : c ≠ other := by
  rintro rfl
  rcases hc with hc | hc
  · exact hminus hc
  · rw [hdigit] at hc
    contradiction

theorem isSpace_of_numeric {c : Char} (hc : c = '-' ∨ c.isDigit = true) :
    isSpace c = false := by
  simp only [isSpace, Bool.or_eq_false_iff, decide_eq_false_iff_not]
  exact ⟨⟨⟨ne_of_numeric hc (by decide) rfl, ne_of_numeric hc (by decide) rfl⟩,
    ne_of_numeric hc (by decide) rfl⟩, ne_of_numeric hc (by decide) rfl⟩

theorem readsAs_integer (depth : ℕ) (n : Int64) :
    ReadsAs (readDocument depth) (.number (Number.ofInteger n))
      (integerDigits n.toInt) := by
  intro rest hrest
  have hnumber := readNumber_integerDigits n hrest
  obtain ⟨c, digits, hdigits, hc⟩ := integerDigits_eq_cons n.toInt
  have hother : ∀ other, other ≠ '-' → other.isDigit = false → c ≠ other :=
    fun other => ne_of_numeric hc
  rw [hdigits, List.cons_append] at hnumber ⊢
  rw [readDocument_scalar (isSpace_of_numeric hc) (hother _ (by decide) rfl)
    (hother _ (by decide) rfl), readScalar, if_neg (hother _ (by decide) rfl),
    if_neg (hother _ (by decide) rfl), if_neg (hother _ (by decide) rfl),
    if_neg (hother _ (by decide) rfl), hnumber]
  rfl

/-! ## Containers -/

def writeEntry (entry : String × Value) : List Char :=
  quote entry.1.toList ++ ':' :: write entry.2

theorem writeItems_eq_intercalate (items : List Value) :
    writeItems items = [','].intercalate (items.map write) := by
  match items with
  | [] => rfl
  | [item] => simp [writeItems]
  | item :: next :: rest =>
      rw [writeItems, writeItems_eq_intercalate (next :: rest)]
      · simp [List.intercalate_cons_cons]
      · simp

theorem writeEntries_eq_intercalate (entries : Entries Value) :
    writeEntries entries = [','].intercalate (entries.map writeEntry) := by
  match entries with
  | [] => rfl
  | [(name, value)] => simp [writeEntries, writeEntry]
  | (name, value) :: next :: rest =>
      rw [writeEntries, writeEntries_eq_intercalate (next :: rest)]
      · simp [List.intercalate_cons_cons, writeEntry]
      · simp

theorem starts_write {value : Value} (hexact : ∀ x, .float x ∉ value.parts) :
    Starts (write value) := by
  cases value with
  | null => exact ⟨'n', _, rfl, rfl, by decide, by decide⟩
  | boolean b =>
      cases b with
      | false => exact ⟨'f', _, rfl, rfl, by decide, by decide⟩
      | true => exact ⟨'t', _, rfl, rfl, by decide, by decide⟩
  | integer n =>
      obtain ⟨c, digits, hdigits, hc⟩ := integerDigits_eq_cons n.toInt
      exact ⟨c, digits, hdigits, isSpace_of_numeric hc,
        ne_of_numeric hc (by decide) rfl, ne_of_numeric hc (by decide) rfl⟩
  | float x => exact absurd (Value.mem_parts_self _) (hexact x)
  | string s => exact ⟨'"', _, rfl, rfl, by decide, by decide⟩
  | sequence items => exact ⟨'[', _, rfl, rfl, by decide, by decide⟩
  | mapping entries => exact ⟨'\x7b', _, rfl, rfl, by decide, by decide⟩

theorem starts_writeEntry (entry : String × Value) : Starts (writeEntry entry) :=
  ⟨'"', _, rfl, rfl, by decide, by decide⟩

theorem readsAs_entry {value : Reader Json} {document : Json} {held : Value}
    (hreads : ReadsAs value document (write held)) (name : String) :
    ReadsAs (readMember value) (name, document) (writeEntry (name, held)) := by
  intro rest hrest
  rw [writeEntry, List.append_assoc, quote_append, readMember, skipSpace_cons rfl]
  simp [readString_flatMap_escape, skipSpace_cons (c := ':') rfl, hreads rest hrest]

theorem readDocument_sequence {depth : ℕ} {documents : List Json}
    {texts : List (List Char)}
    (hreads : List.Forall₂ (ReadsAs (readDocument depth)) documents texts)
    (hstarts : ∀ text ∈ texts, Starts text) :
    ReadsAs (readDocument (depth + 1)) (.array documents)
      ('[' :: [','].intercalate texts ++ [']']) := by
  intro rest _
  have hlist := readList_intercalate (.inl rfl) hreads hstarts rest
  rw [readDocument.eq_def]
  simp [skipSpace_cons (c := '[') rfl, hlist]

theorem readDocument_mapping {depth : ℕ} {members : List (String × Json)}
    {texts : List (List Char)}
    (hreads : List.Forall₂ (ReadsAs (readMember (readDocument depth))) members texts)
    (hstarts : ∀ text ∈ texts, Starts text) :
    ReadsAs (readDocument (depth + 1)) (.object members)
      ('\x7b' :: [','].intercalate texts ++ ['\x7d']) := by
  intro rest _
  have hlist := readList_intercalate (.inr rfl) hreads hstarts rest
  rw [readDocument.eq_def]
  simp [skipSpace_cons (c := '\x7b') rfl, hlist]

/-! ## Values -/

mutual

theorem readsAs_write {value : Value} {depth : ℕ}
    (hexact : ∀ x, .float x ∉ value.parts) (hdepth : value.depth ≤ depth) :
    ReadsAs (readDocument depth) (ofValue value) (write value) := by
  match value with
  | .null =>
      exact readsAs_word (fun _ => rfl) rfl (by decide) (by decide) depth
  | .boolean true =>
      exact readsAs_word (fun _ => rfl) rfl (by decide) (by decide) depth
  | .boolean false =>
      exact readsAs_word (fun _ => rfl) rfl (by decide) (by decide) depth
  | .integer n => exact readsAs_integer depth n
  | .float x => exact absurd (Value.mem_parts_self _) (hexact x)
  | .string s => exact readsAs_string depth s
  | .sequence items =>
      obtain ⟨inner, rfl⟩ :=
        Nat.exists_eq_succ_of_ne_zero (Nat.ne_zero_of_lt hdepth)
      have hinside : ∀ x, .float x ∉ Value.partsOfItems items := fun x hmem =>
        hexact x (List.mem_cons_of_mem _ hmem)
      rw [ofValue, write, writeItems_eq_intercalate]
      have hitems := readsAs_items hinside (Nat.le_of_succ_le_succ hdepth)
      refine readDocument_sequence hitems ?_
      intro text htext
      obtain ⟨item, hitem, rfl⟩ := List.mem_map.mp htext
      exact starts_write fun x hmem =>
        hinside x (Value.mem_partsOfItems_iff.mpr ⟨item, hitem, hmem⟩)
  | .mapping entries =>
      obtain ⟨inner, rfl⟩ :=
        Nat.exists_eq_succ_of_ne_zero (Nat.ne_zero_of_lt hdepth)
      have hinside : ∀ x, .float x ∉ Value.partsOfEntries entries := fun x hmem =>
        hexact x (List.mem_cons_of_mem _ hmem)
      rw [ofValue, write, writeEntries_eq_intercalate]
      have hentries := readsAs_entries hinside (Nat.le_of_succ_le_succ hdepth)
      refine readDocument_mapping hentries ?_
      intro text htext
      obtain ⟨entry, -, rfl⟩ := List.mem_map.mp htext
      exact starts_writeEntry entry

theorem readsAs_items {items : List Value} {depth : ℕ}
    (hexact : ∀ x, .float x ∉ Value.partsOfItems items)
    (hdepth : Value.depthOfItems items ≤ depth) :
    List.Forall₂ (ReadsAs (readDocument depth)) (ofItems items)
      (items.map write) := by
  match items with
  | [] => exact .nil
  | item :: rest =>
      obtain ⟨hitem, hrest⟩ := max_le_iff.mp hdepth
      exact .cons
        (readsAs_write (fun x hmem => hexact x (List.mem_append_left _ hmem)) hitem)
        (readsAs_items (fun x hmem => hexact x (List.mem_append_right _ hmem)) hrest)

theorem readsAs_entries {entries : Entries Value} {depth : ℕ}
    (hexact : ∀ x, .float x ∉ Value.partsOfEntries entries)
    (hdepth : Value.depthOfEntries entries ≤ depth) :
    List.Forall₂ (ReadsAs (readMember (readDocument depth))) (ofEntries entries)
      (entries.map writeEntry) := by
  match entries with
  | [] => exact .nil
  | (name, value) :: rest =>
      obtain ⟨hvalue, hrest⟩ := max_le_iff.mp hdepth
      have hinside : ∀ x, .float x ∉ value.parts := fun x hmem =>
        hexact x (List.mem_append_left _ hmem)
      have hreads := readsAs_write hinside hvalue
      exact .cons (readsAs_entry hreads name)
        (readsAs_entries (fun x hmem => hexact x (List.mem_append_right _ hmem)) hrest)

end

end Json

/-- No double, and no deeper nesting than JSON readers take. -/
structure Value.Portable (value : Value) : Prop where
  exact : ∀ x, .float x ∉ value.parts
  shallow : value.depth ≤ Json.nestingLimit

namespace Data

theorem parse?_json {data : Data} (hportable : data.value.Portable) :
    (Json.parse? data.value.json).map Json.toValue = some data.value := by
  have hread := Json.readsAs_write hportable.exact hportable.shallow []
    Json.endsNumber_nil
  rw [List.append_nil] at hread
  have hparse : Json.parse? data.value.json = some (Json.ofValue data.value) := by
    rw [Json.parse?, Json.parseWithin?, Value.json, String.toList_ofList, hread]
    rfl
  rw [hparse, Option.map_some, Json.toValue_ofValue data.ordered]

/-- The JSON text of a value gives the value back.  The text of a mapping is its
JSON text, so that no two mappings have one text. -/
theorem json_round_trip {data : Data} (hportable : data.value.Portable) :
    (Json.parse? data.value.json).map Json.toValue = some data.value ∧
    ∀ (other : Data) (entries others : Entries Value),
      data.value = .mapping entries → other.value = .mapping others →
      other.value.Portable → other.value.text = data.value.text →
        others = entries := by
  refine ⟨parse?_json hportable, ?_⟩
  intro other entries others hentries hothers hother htext
  have hjson : other.value.json = data.value.json := by
    rw [hentries, hothers] at htext ⊢
    exact htext
  have hback := parse?_json hother
  rw [hjson, parse?_json hportable, Option.some_inj, hentries, hothers] at hback
  exact (Value.mapping.inj hback).symm

/-- Both kinds of container, marks and a control character in names and strings,
and the least integer. -/
def escaped : Data where
  value := .mapping [
    ("a \"b\"", .sequence [.null, .integer Int64.minValue, .string "é\x01\n"]),
    ("ß", .mapping [("\\", .boolean true), ("~", .sequence [])])]
  ordered := by
    simp only [Value.Ordered, Value.OrderedItems, Value.OrderedEntries,
      Entries.Ordered]
    decide

def hollow : Data := ⟨.mapping [], .nil, trivial⟩

theorem json_round_trip_of_escaped :
    escaped.value.Portable ∧ hollow.value.Portable ∧
    (Json.parse? escaped.value.json).map Json.toValue = some escaped.value ∧
    hollow.value.text ≠ escaped.value.text := by
  have hescaped : escaped.value.Portable := by
    refine ⟨fun x => ?_, by decide⟩
    simp [escaped, Value.parts, Value.partsOfItems, Value.partsOfEntries]
  have hhollow : hollow.value.Portable := by
    refine ⟨fun x => ?_, by decide⟩
    simp [hollow, Value.parts, Value.partsOfEntries]
  obtain ⟨hback, hother⟩ := json_round_trip hescaped
  refine ⟨hescaped, hhollow, hback, fun htext => ?_⟩
  exact List.cons_ne_nil _ _ (hother hollow _ [] rfl rfl hhollow htext).symm

end Data

end Stencil
