import RuntimeContracts.Proofs.Json.Canonical
import RuntimeContracts.Proofs.Json.Number

/-!
# Round trips through JSON

The reader is followed along the text that the writer made. Each piece of the text is read back
whatever comes behind it, as long as it is something that may stand behind a value, and so are
items with commas between them. The induction on the value goes along with the depth that is left
to the reader.

* `Json.readString_flatMap_escaped`: an escaped string is read back.
* `Json.readSequence_joined`: items with commas between them are read back if each of them is.
* `Json.readValue_chars`: the text of a value is read as the data in it, as far as the reader goes.
* `Value.json_round_trip`: what a round trip through JSON makes of a value.
-/

namespace RuntimeContracts

namespace Json

/-! ## Strings -/

theorem readString_plain {c : Char} (hc : 0x20 ≤ c.toNat) (hq : c ≠ '"') (hb : c ≠ '\\')
    (tail : List Char) :
    readString (c :: tail) = (readString tail).map fun (cs, r) => (c :: cs, r) := by
  rw [readString]
  · rw [if_neg]
    rintro (h | h)
    · omega
    · exact hb h
  all_goals simp_all

theorem readString_control {c : Char} (hc : c.toNat < 0x20) (tail : List Char) :
    readString ('\\' :: 'u' :: '0' :: '0' :: Nat.digitChar (c.toNat / 16) ::
      Nat.digitChar (c.toNat % 16) :: tail) = (readString tail).map fun (cs, r) => (c :: cs, r) := by
  have hhex : hex4? '0' '0' (Nat.digitChar (c.toNat / 16)) (Nat.digitChar (c.toNat % 16)) =
      some c.toNat := by
    have hall : ∀ n : Fin 0x20, hex4? '0' '0' (Nat.digitChar (n / 16)) (Nat.digitChar (n % 16)) =
        some n.val := by decide
    exact hall ⟨c.toNat, hc⟩
  have hhigh : isHighSurrogate c.toNat = false := decide_eq_false (by omega)
  have hlow : isLowSurrogate c.toNat = false := decide_eq_false (by omega)
  rw [readString]
  simp [hhex, hhigh, hlow]

theorem readString_escaped (c : Char) (tail : List Char) :
    readString (escaped c ++ tail) = (readString tail).map fun (cs, r) => (c :: cs, r) := by
  unfold escaped
  split
  · next h => subst h; rfl
  split
  · next h => subst h; rfl
  split
  · next h => subst h; rfl
  split
  · next h => subst h; rfl
  split
  · next h => subst h; rfl
  split
  · next h => subst h; rfl
  split
  · next h => subst h; rfl
  split
  · next h => exact readString_control h tail
  · next hquote hslash _ _ _ _ _ hplain =>
    exact readString_plain (Nat.not_lt.1 hplain) hquote hslash tail

theorem readString_flatMap_escaped (s rest : List Char) :
    readString (s.flatMap escaped ++ '"' :: rest) = some (s, rest) := by
  induction s with
  | nil => rfl
  | cons c s ih =>
    rw [List.flatMap_cons, List.append_assoc, readString_escaped, ih]
    rfl

theorem writeString_append (s : String) (rest : List Char) :
    writeString s ++ rest = '"' :: (s.toList.flatMap escaped ++ '"' :: rest) := by
  simp [writeString]

/-! ## Items with commas between them -/

/-- What may follow a value: nothing, a comma or a closing bracket. -/
def EndsValue (rest : List Char) : Prop :=
  ∀ c, rest.head? = some c → c = ',' ∨ c = ']' ∨ c = '\x7d'

theorem EndsValue.endsNumber {rest : List Char} (h : EndsValue rest) : EndsNumber rest := by
  intro c hc
  rcases h c hc with rfl | rfl | rfl <;> decide

/-- The text is told from white space and closing brackets by its first character. -/
def StartsItem (text : List Char) : Prop :=
  ∃ c cs, text = c :: cs ∧ isSpace c = false ∧ c ≠ ']' ∧ c ≠ '\x7d'

/-- Reading a text ends in this way whatever may follow it. -/
def ReadsAs (item : Reader β) (text : List Char) (outcome : Option β) : Prop :=
  ∀ rest, EndsValue rest → item (text ++ rest) = outcome.map (·, rest)

/-- Texts with commas between them. -/
def joined (text : α → List Char) : List α → List Char
  | [] => []
  | [a] => text a
  | a :: rest => text a ++ ',' :: joined text rest

theorem joined_cons_cons (text : α → List Char) (a b : α) (items : List α) :
    joined text (a :: b :: items) = text a ++ ',' :: joined text (b :: items) := rfl

/-- Every item takes a character at least, and the first one begins the text. -/
theorem joined_cons {text : α → List Char} {a : α} {items : List α}
    (h : ∀ b ∈ a :: items, StartsItem (text b)) :
    ∃ c cs, joined text (a :: items) = c :: cs ∧ isSpace c = false ∧ c ≠ ']' ∧ c ≠ '\x7d' ∧
      items.length ≤ cs.length := by
  induction items generalizing a with
  | nil =>
    obtain ⟨c, cs, htext, hspace, hclose⟩ := h a List.mem_cons_self
    exact ⟨c, cs, htext, hspace, hclose.1, hclose.2, Nat.zero_le _⟩
  | cons b items ih =>
    obtain ⟨ha, hitems⟩ := List.forall_mem_cons.1 h
    obtain ⟨c, cs, htext, hspace, hclose⟩ := ha
    obtain ⟨c', cs', hjoined, -, -, -, hlength⟩ := ih hitems
    refine ⟨c, cs ++ ',' :: c' :: cs', ?_, hspace, hclose.1, hclose.2, ?_⟩
    · rw [joined_cons_cons, htext, hjoined, List.cons_append]
    · simp only [List.length_cons, List.length_append]
      omega

section

variable {item : Reader β} {closing : Char} {text : α → List Char} {outcome : α → Option β}
  (hclosing : closing = ']' ∨ closing = '\x7d')

include hclosing

omit hclosing in
theorem readItems_of_comma {fuel : Nat} {cs rest : List Char} {d : β}
    (h : item cs = some (d, ',' :: rest)) :
    readItems item closing (fuel + 1) cs =
      (readItems item closing fuel rest).map fun (ds, r) => (d :: ds, r) := by
  rw [readItems, h]
  rfl

theorem readItems_of_closing {fuel : Nat} {cs rest : List Char} {d : β}
    (h : item cs = some (d, closing :: rest)) :
    readItems item closing (fuel + 1) cs = some ([d], rest) := by
  rw [readItems, h]
  rcases hclosing with rfl | rfl <;> rfl

theorem readItems_joined {items : List α} (hne : items ≠ [])
    (h : ∀ a ∈ items, ReadsAs item (text a) (outcome a)) {fuel : Nat}
    (hfuel : items.length ≤ fuel) (rest : List Char) :
    readItems item closing fuel (joined text items ++ closing :: rest) =
      (items.mapM outcome).map (·, rest) := by
  induction items generalizing fuel with
  | nil => contradiction
  | cons a items ih =>
    obtain ⟨ha, hitems⟩ := List.forall_mem_cons.1 h
    -- every item has fuel, so only what an item is read as decides
    obtain ⟨fuel, rfl⟩ : ∃ n, fuel = n + 1 :=
      Nat.exists_eq_add_one_of_ne_zero (Nat.ne_of_gt (Nat.lt_of_lt_of_le (Nat.succ_pos _) hfuel))
    rw [List.mapM_cons]
    cases items with
    | nil =>
      have hread := ha (closing :: rest) (by rintro c ⟨⟩; exact .inr hclosing)
      rw [joined]
      cases hout : outcome a with
      | none =>
        rw [hout] at hread
        rw [readItems, hread]
        rfl
      | some d =>
        rw [hout] at hread
        exact readItems_of_closing hclosing hread
    | cons b items =>
      have hread := ha (',' :: (joined text (b :: items) ++ closing :: rest))
        (by rintro c ⟨⟩; exact .inl rfl)
      have htail := ih (List.cons_ne_nil b items) hitems (Nat.le_of_succ_le_succ hfuel)
      rw [joined_cons_cons, List.append_assoc, List.cons_append]
      cases hout : outcome a with
      | none =>
        rw [hout] at hread
        rw [readItems, hread]
        rfl
      | some d =>
        rw [hout] at hread
        rw [readItems_of_comma hread, htail]
        cases (b :: items).mapM outcome <;> rfl

/-- Items are read one after another, and all of them have to succeed. -/
theorem readSequence_joined {items : List α} (hstart : ∀ a ∈ items, StartsItem (text a))
    (h : ∀ a ∈ items, ReadsAs item (text a) (outcome a)) (rest : List Char) :
    readSequence item closing (joined text items ++ closing :: rest) =
      (items.mapM outcome).map (·, rest) := by
  have hspace : isSpace closing = false := by rcases hclosing with rfl | rfl <;> rfl
  cases items with
  | nil => simp [joined, readSequence, skipSpace, hspace]
  | cons a items =>
    obtain ⟨c, cs, hjoined, hfirst, hbracket, hbrace, hlength⟩ := joined_cons hstart
    have hfuel : (a :: items).length ≤ (joined text (a :: items) ++ closing :: rest).length := by
      rw [hjoined]
      simp only [List.length_cons, List.length_append]
      omega
    have hread := readItems_joined hclosing (List.cons_ne_nil a items) h hfuel rest
    have hc : c ≠ closing := by rcases hclosing with rfl | rfl <;> assumption
    rw [hjoined] at hread ⊢
    simpa [readSequence, skipSpace, hfirst, hc] using hread

end

/-! ## Values -/

theorem itemChars_eq (items : List Value) : itemChars items = joined chars items := by
  induction items with
  | nil => rfl
  | cons v items ih =>
    cases items with
    | nil => rfl
    | cons w items => rw [itemChars, ih, joined_cons_cons]; exact List.cons_ne_nil w items

/-- The text of a key and its value. -/
def memberChars (e : String × Value) : List Char := writeString e.1 ++ ':' :: chars e.2

theorem entryChars_eq (entries : Entries Value) : entryChars entries = joined memberChars entries := by
  induction entries with
  | nil => rfl
  | cons e entries ih =>
    obtain ⟨k, v⟩ := e
    cases entries with
    | nil => rfl
    | cons e entries =>
      rw [entryChars, ih, joined_cons_cons, memberChars]
      · simp
      · exact List.cons_ne_nil e entries

theorem startsItem_of_number {c : Char} (hc : c = '-' ∨ c.isDigit = true) (cs : List Char) :
    StartsItem (c :: cs) := by
  refine ⟨c, cs, rfl, ?_, ?_, ?_⟩
  · rw [← Bool.not_eq_true]
    intro hspace
    simp only [isSpace, Bool.or_eq_true, decide_eq_true_eq] at hspace
    rcases hspace with ((rfl | rfl) | rfl) | rfl <;> exact absurd hc (by decide)
  · rintro rfl
    exact absurd hc (by decide)
  · rintro rfl
    exact absurd hc (by decide)

theorem startsItem_chars (v : Value) : StartsItem (chars v) := by
  cases v with
  | undefined => exact ⟨'n', _, rfl, by decide⟩
  | null => exact ⟨'n', _, rfl, by decide⟩
  | bool b =>
    cases b with
    | true => exact ⟨'t', _, rfl, by decide⟩
    | false => exact ⟨'f', _, rfl, by decide⟩
  | number x =>
    rw [chars]
    by_cases hx : x.isFinite = true
    · obtain ⟨c, cs, htext, hc⟩ := exists_writeNumber_eq_cons hx
      rw [htext]
      exact startsItem_of_number hc cs
    · rw [writeNumber, if_neg hx]
      exact ⟨'n', _, rfl, by decide⟩
  | string s => exact ⟨'"', _, rfl, by decide⟩
  | array items => exact ⟨'[', _, rfl, by decide⟩
  | object entries => exact ⟨'\x7b', _, rfl, by decide⟩

theorem startsItem_memberChars (e : String × Value) : StartsItem (memberChars e) :=
  ⟨'"', _, rfl, by decide⟩

theorem readMember_memberChars {value : Reader Datum} {e : String × Value}
    {outcome : Option Datum} (h : ReadsAs value (chars e.2) outcome) :
    ReadsAs (readMember value) (memberChars e) (outcome.map (.text e.1, ·)) := by
  intro rest hrest
  have htext : memberChars e ++ rest =
      '"' :: (e.1.toList.flatMap escaped ++ '"' :: (':' :: (chars e.2 ++ rest))) := by
    rw [memberChars, List.append_assoc, writeString_append, List.cons_append]
  have hquote : isSpace '"' = false := rfl
  have hcolon : isSpace ':' = false := rfl
  rw [htext]
  simp only [readMember, skipSpace, List.dropWhile_cons, hquote, hcolon, Bool.false_eq_true, if_false,
    readString_flatMap_escaped, h rest hrest, String.ofList_toList]
  cases outcome <;> rfl

theorem readValue_number {depth : Nat} {c : Char} (hc : c = '-' ∨ c.isDigit = true)
    (cs : List Char) : readValue depth (c :: cs) = readNumber (c :: cs) := by
  obtain ⟨_, _, ⟨⟩, hspace, -⟩ := startsItem_of_number hc cs
  have hskip : skipSpace (c :: cs) = c :: cs := by simp [skipSpace, hspace]
  rw [readValue.eq_def, hskip]
  split
  case h_7 => rfl
  all_goals
    next heq =>
      obtain rfl := (List.cons.inj heq).1
      exact absurd hc (by decide)

theorem readValue_bracket (depth : Nat) (rest : List Char) :
    readValue (depth + 1) ('[' :: rest) =
      (readSequence (readValue depth) ']' rest).map fun (ds, r) => (.list ds, r) := rfl

theorem readValue_brace (depth : Nat) (rest : List Char) :
    readValue (depth + 1) ('\x7b' :: rest) =
      (readSequence (readMember (readValue depth)) '\x7d' rest).map
        fun (es, r) => (.map es, r) := rfl

theorem readValue_quote (depth : Nat) (rest : List Char) :
    readValue depth ('"' :: rest) =
      (readString rest).map fun (s, r) => (.text (String.ofList s), r) := by
  cases depth <;> rfl

theorem readValue_null (depth : Nat) :
    ReadsAs (readValue depth) ['n', 'u', 'l', 'l'] (some .unit) := by
  intro rest _
  cases depth <;> rfl

/-- **What is written of a value is read back**, if the value is nested no deeper than the reader
goes. A value that is nested deeper is refused. -/
theorem readValue_chars (v : Value) (depth : Nat) :
    ReadsAs (readValue depth) (chars v) (v.datumWithin depth) := by
  induction v using Value.nestedInduction generalizing depth with
  | undefined => exact readValue_null depth
  | null => exact readValue_null depth
  | bool b =>
    intro rest _
    cases b <;> cases depth <;> rfl
  | number x =>
    have hdatum : (Value.number x).datumWithin depth = some (Value.number x).jsonDatum := rfl
    rw [hdatum, chars, Value.jsonDatum]
    by_cases hx : x.isFinite = true
    · rw [if_pos hx]
      intro rest hrest
      obtain ⟨c, cs, htext, hc⟩ := exists_writeNumber_eq_cons hx
      have hread := readNumber_writeNumber hx hrest.endsNumber
      rw [htext] at hread ⊢
      exact (readValue_number hc _).trans hread
    · rw [if_neg hx, writeNumber, if_neg hx]
      exact readValue_null depth
  | string s =>
    intro rest _
    have hread : readValue depth (chars (.string s) ++ rest) =
        some (.text (String.ofList s.toList), rest) := by
      rw [chars, writeString_append, readValue_quote, readString_flatMap_escaped]
      rfl
    rw [hread, String.ofList_toList]
    rfl
  | array items ih =>
    intro rest _
    rw [chars, itemChars_eq]
    cases depth with
    | zero => rfl
    | succ depth =>
      -- the bracket takes one of the depth, and the items have what is left of it
      have hread := readSequence_joined (.inl rfl) (fun v _ => startsItem_chars v)
        (fun v hv => ih v hv depth) rest
      have htext : '[' :: (joined chars items ++ [']']) ++ rest =
          '[' :: (joined chars items ++ ']' :: rest) := by simp
      rw [Value.datumWithin_array, htext, readValue_bracket, hread]
      cases items.mapM fun v : Value => v.datumWithin depth <;> rfl
  | object entries ih =>
    intro rest _
    rw [chars, entryChars_eq]
    cases depth with
    | zero => rfl
    | succ depth =>
      have hread := readSequence_joined (.inr rfl) (fun e _ => startsItem_memberChars e)
        (fun e he => readMember_memberChars (ih e he depth)) rest
      have htext : '\x7b' :: (joined memberChars entries ++ ['\x7d']) ++ rest =
          '\x7b' :: (joined memberChars entries ++ '\x7d' :: rest) := by simp
      rw [Value.datumWithin_object, htext, readValue_brace, hread]
      cases entries.mapM fun e : String × Value =>
        (e.2.datumWithin depth).map (Datum.text e.1, ·) <;> rfl

end Json

namespace Value

/-! ## Round trips -/

theorem ofJson?_toJson {v : Value} (hv : v.IsOrdered) :
    ofJson? v.toJson = if v.depth ≤ Json.nestingLimit then some v.canon else none := by
  have hchars := Json.readValue_chars v Json.nestingLimit [] nofun
  have hread : Json.read? v.toJson = v.datumWithin Json.nestingLimit := by
    rw [List.append_nil] at hchars
    rw [Json.read?, toJson, Json.write, String.toList_ofList, hchars]
    cases v.datumWithin Json.nestingLimit <;> rfl
  rw [ofJson?, hread, datumWithin]
  split
  · rw [Option.bind_some, toValue_jsonDatum hv]
    rfl
  · rfl

/-- What a number of round trips through JSON make of a value, if all of them succeed. -/
def roundTrips : Nat → Value → Option Value
  | 0, v => some v
  | n + 1, v => (ofJson? v.toJson).bind (roundTrips n)

theorem roundTrips_canon {v : Value} (hv : v.IsOrdered) (hd : v.depth ≤ Json.nestingLimit)
    (n : Nat) : roundTrips n v.canon = some v.canon := by
  induction n with
  | zero => rfl
  | succ n ih =>
    rw [roundTrips, ofJson?_toJson (isOrdered_canon hv), depth_canon, if_pos hd, canon_canon,
      Option.bind_some, ih]

/-- **A round trip through JSON gives the canonical form.** The value that is read back equals the
one that was written if and only if nothing in it is undefined, not a number or infinite, and
further round trips change nothing. -/
theorem json_round_trip {v : Value} (hv : v.IsOrdered) (hd : v.depth ≤ Json.nestingLimit) :
    ofJson? v.toJson = some v.canon ∧ ((v.canon == v) = true ↔ IsExact v) ∧
      ∀ n, roundTrips (n + 1) v = some v.canon := by
  have hread : ofJson? v.toJson = some v.canon := by rw [ofJson?_toJson hv, if_pos hd]
  refine ⟨hread, canon_beq_iff, fun n => ?_⟩
  rw [roundTrips, hread, Option.bind_some, roundTrips_canon hv hd n]

/-- Null takes the places of an undefined item and an infinity, and the zero keeps its sign. -/
theorem json_round_trip_of_lossy :
    let zero := number (.ofMagnitude true 0)
    let infinity := number (.ofMagnitude true Binary64.infiniteMagnitude)
    let v := object [("a", array [undefined, zero]), ("b", infinity)]
    v.IsOrdered ∧ v.depth ≤ Json.nestingLimit ∧
      ofJson? v.toJson = some (object [("a", array [null, zero]), ("b", null)]) ∧
      (v.canon == v) = false := by
  intro zero infinity v
  have hbefore : Text.Before "a" "b" := by decide
  have hv : v.IsOrdered :=
    ⟨List.pairwise_pair.2 hbefore, ⟨trivial, trivial, trivial⟩, trivial, trivial⟩
  have hd : v.depth ≤ Json.nestingLimit := by decide
  have hcanon : v.canon = object [("a", array [null, zero]), ("b", null)] := by rfl
  obtain ⟨hread, hexact, -⟩ := json_round_trip hv hd
  refine ⟨hv, hd, hcanon ▸ hread, ?_⟩
  rw [← Bool.not_eq_true, hexact]
  exact fun h => h.undefined (.inside List.mem_cons_self (.inside List.mem_cons_self .self))

end Value

end RuntimeContracts
