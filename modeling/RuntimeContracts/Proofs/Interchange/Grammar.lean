import RuntimeContracts.Interchange.Reading

/-!
# The data that values are read from

Reading comes to one place of a piece of data after another: to the whole before its parts, to
items from the first to the last, and to a key before its value. At each place something is
wanted, a value or a key, and what is found there fits or does not. That decides about the outcome.

* `Datum.places`: the places in the order in which reading comes to them.
* `Datum.Reads`: the value that a piece of data stands for. An object has under each key the value
  of the last entry with that key.
* `Datum.spec_toValue`: reading fails at the first place that does not fit, and else gives this
  value.
* `Datum.accepts_grammar`: which data are read, what they are read as, and how reading fails.
* `Datum.bytes_fit_as_key`: it is not only characters and texts that do as keys.
-/
namespace RuntimeContracts

namespace Datum

/-! ## Places -/

/-- There are values of this kind of data. -/
def hasValue : Datum → Bool
  | wideInteger _ _ | bytes _ | wrapped _ | variant _ => false
  | _ => true

/-- A character or a text. -/
def isText : Datum → Bool
  | char _ | text _ => true
  | _ => false

/-- A character, a text, or the bytes of a text. -/
def isKey : Datum → Bool
  | bytes data => (String.fromUTF8? data).isSome
  | d => d.isText

/-- What reading finds at a place and what it wants there. -/
structure Place where
  wanted : Wanted
  found : Datum

namespace Place

def fits (p : Place) : Bool :=
  match p.wanted with
  | .anyValue => p.found.hasValue
  | .key => p.found.isKey

/-- What is said about a place that does not fit. Of all keys only bytes are of a kind that may
fit. -/
def mismatch (p : Place) : Mismatch :=
  match p.wanted, p.found with
  | .key, .bytes data => .wrongValue (.bytes data) .key
  | wanted, found => .wrongType found wanted

end Place

mutual

/-- The places of a piece of data in reading order. What is inside of data that does not fit is not
come to. -/
def places : Datum → List Place
  | present content => ⟨.anyValue, present content⟩ :: places content
  | list items => ⟨.anyValue, list items⟩ :: itemPlaces items
  | map entries => ⟨.anyValue, map entries⟩ :: entryPlaces entries
  | d => [⟨.anyValue, d⟩]

def itemPlaces : List Datum → List Place
  | [] => []
  | d :: rest => places d ++ itemPlaces rest

def entryPlaces : List (Datum × Datum) → List Place
  | [] => []
  | (k, d) :: rest => ⟨.key, k⟩ :: (places d ++ entryPlaces rest)

end

/-! ## What data stand for -/

/-- The text that a piece of data stands for as a key. -/
inductive ReadsKey : Datum → String → Prop where
  | char (c : Char) : ReadsKey (char c) (String.singleton c)
  | text (s : String) : ReadsKey (text s) s
  | bytes {data : ByteArray} {s : String} (h : String.fromUTF8? data = some s) :
      ReadsKey (bytes data) s

mutual

/-- The value that a piece of data stands for. -/
inductive Reads : Datum → Value → Prop where
  | unit : Reads unit .null
  | absent : Reads absent .null
  | present {content : Datum} {v : Value} (h : Reads content v) : Reads (present content) v
  | bool (b : Bool) : Reads (bool b) (.bool b)
  | integer (n : Int) : Reads (integer n) (.number (.ofInt n))
  | number (x : Binary64) : Reads (number x) (.number x)
  | char (c : Char) : Reads (char c) (.string (String.singleton c))
  | text (s : String) : Reads (text s) (.string s)
  | list {items : List Datum} {values : List Value} (h : ReadsItems items values) :
      Reads (list items) (.array values)
  | map {entries : List (Datum × Datum)} {pairs : List (String × Value)}
      {content : Entries Value} (h : ReadsEntries entries pairs) (hasc : content.Ascending)
      (hlast : ∀ key, content.get? key = Entries.lastValue? key pairs) :
      Reads (map entries) (.object content)

inductive ReadsItems : List Datum → List Value → Prop where
  | nil : ReadsItems [] []
  | cons {d : Datum} {v : Value} {rest : List Datum} {values : List Value} (h : Reads d v)
      (hrest : ReadsItems rest values) : ReadsItems (d :: rest) (v :: values)

inductive ReadsEntries : List (Datum × Datum) → List (String × Value) → Prop where
  | nil : ReadsEntries [] []
  | cons {k d : Datum} {key : String} {v : Value} {rest : List (Datum × Datum)}
      {pairs : List (String × Value)} (hkey : ReadsKey k key) (h : Reads d v)
      (hrest : ReadsEntries rest pairs) : ReadsEntries ((k, d) :: rest) ((key, v) :: pairs)

end

/-! ## Keys -/

theorem toKey_of_readsKey {k : Datum} {key : String} (h : ReadsKey k key) : k.toKey = .ok key := by
  cases h with
  | char c => rfl
  | text s => rfl
  | bytes h => rw [toKey, h]

/-- A key is read where it fits, and else the mismatch is reported. -/
theorem spec_toKey (k : Datum) :
    (∃ key, k.toKey = .ok key ∧ ReadsKey k key ∧ Place.fits ⟨.key, k⟩ = true) ∨
      k.toKey = .error (Place.mismatch ⟨.key, k⟩) ∧ Place.fits ⟨.key, k⟩ = false := by
  cases k with
  | char c => exact .inl ⟨_, rfl, .char c, rfl⟩
  | text s => exact .inl ⟨_, rfl, .text s, rfl⟩
  | bytes data =>
    cases h : String.fromUTF8? data with
    | some s => exact .inl ⟨s, by rw [toKey, h], .bytes h, by simp [Place.fits, isKey, h]⟩
    | none => exact .inr ⟨by rw [toKey, h]; rfl, by simp [Place.fits, isKey, h]⟩
  | unit | absent | present _ | bool _ | integer _ | wideInteger _ _ | number _ | wrapped _
  | variant _ | list _ | map _ => exact .inr ⟨rfl, rfl⟩

/-! ## Outcomes -/

/-- How reading ends, as the places tell: at the first one that does not fit, or with a value. -/
def Outcome (places : List Place) (good : β → Prop) : Except Mismatch β → Prop
  | .ok b => (∀ p ∈ places, p.fits = true) ∧ good b
  | .error m => ∃ p, places.find? (fun p => !p.fits) = some p ∧ m = p.mismatch

namespace Outcome

variable {β γ δ : Type} {ps qs : List Place} {good : β → Prop} {good' : γ → Prop}

/-- What is read in two steps is read from the places of the first one and then from those of the
second one. -/
theorem bind {x : Except Mismatch β} {f : β → Except Mismatch γ} (hx : Outcome ps good x)
    (hf : ∀ b, good b → Outcome qs good' (f b)) : Outcome (ps ++ qs) good' (x >>= f) := by
  cases x with
  | error m =>
    obtain ⟨p, hp, hm⟩ := hx
    refine ⟨p, ?_, hm⟩
    rw [List.find?_append, hp, Option.some_or]
  | ok b =>
    obtain ⟨hfits, hgood⟩ := hx
    have hnone : ps.find? (fun p => !p.fits) = none := by
      rw [List.find?_eq_none]
      intro p hp
      rw [hfits p hp]
      exact Bool.false_ne_true
    have hb := hf b hgood
    show Outcome (ps ++ qs) good' (f b)
    cases hfb : f b with
    | error m =>
      rw [hfb] at hb
      obtain ⟨p, hp, hm⟩ := hb
      refine ⟨p, ?_, hm⟩
      rw [List.find?_append, hnone, Option.none_or, hp]
    | ok c =>
      rw [hfb] at hb
      refine ⟨fun p hp => ?_, hb.2⟩
      rcases List.mem_append.1 hp with hp | hp
      · exact hfits p hp
      · exact hb.1 p hp

theorem ok {b : β} (h : good b) : Outcome [] good (.ok b) :=
  ⟨List.forall_mem_nil _, h⟩

/-- A place that fits decides nothing. -/
theorem cons {p : Place} (hp : p.fits = true) {x : Except Mismatch β} (hx : Outcome ps good x) :
    Outcome (p :: ps) good x := by
  cases x with
  | error m =>
    obtain ⟨q, hq, hm⟩ := hx
    refine ⟨q, ?_, hm⟩
    rw [List.find?_cons_of_neg (by rw [hp]; exact Bool.false_ne_true), hq]
  | ok b => exact ⟨List.forall_mem_cons.2 ⟨hp, hx.1⟩, hx.2⟩

theorem mono {good₂ : β → Prop} {x : Except Mismatch β} (hx : Outcome ps good x)
    (h : ∀ b, good b → good₂ b) : Outcome ps good₂ x := by
  cases x with
  | error m => exact hx
  | ok b => exact ⟨hx.1, h b hx.2⟩

theorem key (k : Datum) : Outcome [⟨.key, k⟩] (ReadsKey k) k.toKey := by
  rcases spec_toKey k with ⟨key, heq, hreads, hfits⟩ | ⟨heq, hfits⟩
  · rw [heq]
    exact ⟨List.forall_mem_singleton.2 hfits, hreads⟩
  · rw [heq]
    exact ⟨_, List.find?_cons_of_pos (by rw [hfits]; rfl), rfl⟩

end Outcome

theorem Outcome.leaf {d : Datum} {v : Value} (hplaces : d.places = [⟨.anyValue, d⟩])
    (hfits : d.hasValue = true) (h : Reads d v) : Outcome d.places (Reads d) (.ok v) := by
  have hp : Place.fits ⟨.anyValue, d⟩ = true := hfits
  rw [hplaces]
  exact .cons hp (.ok h)

theorem Outcome.refused {d : Datum} (hplaces : d.places = [⟨.anyValue, d⟩])
    (hfits : d.hasValue = false) :
    Outcome d.places (Reads d) (.error (Place.mismatch ⟨.anyValue, d⟩)) := by
  rw [hplaces]
  exact ⟨_, List.find?_cons_of_pos (by rw [Place.fits, hfits]; rfl), rfl⟩

mutual

/-- Reading fails at the first place that does not fit, and else gives what the data stand for. -/
theorem spec_toValue (d : Datum) : Outcome d.places (Reads d) d.toValue := by
  cases d with
  | unit => exact .leaf rfl rfl .unit
  | absent => exact .leaf rfl rfl .absent
  | present content =>
    refine .cons rfl ?_
    exact (spec_toValue content).mono fun v => .present
  | bool b => exact .leaf rfl rfl (.bool b)
  | integer n => exact .leaf rfl rfl (.integer n)
  | wideInteger signed n => exact .refused rfl rfl
  | number x => exact .leaf rfl rfl (.number x)
  | char c => exact .leaf rfl rfl (.char c)
  | text s => exact .leaf rfl rfl (.text s)
  | bytes data => exact .refused rfl rfl
  | wrapped content => exact .refused rfl rfl
  | variant name => exact .refused rfl rfl
  | list items =>
    refine .cons rfl ?_
    rw [toValue, ← List.append_nil (itemPlaces items)]
    exact (spec_itemValues items).bind fun values h => .ok (.list h)
  | map entries =>
    refine .cons rfl ?_
    rw [toValue, ← List.append_nil (entryPlaces entries)]
    exact (spec_entryPairs entries).bind fun pairs h =>
      .ok (.map h (Entries.ascending_ofPairs pairs) fun key => Entries.get?_ofPairs key pairs)

theorem spec_itemValues (items : List Datum) :
    Outcome (itemPlaces items) (ReadsItems items) (itemValues items) := by
  cases items with
  | nil => exact .ok .nil
  | cons d rest =>
    rw [itemPlaces, itemValues, ← List.append_nil (itemPlaces rest)]
    exact (spec_toValue d).bind fun v h => (spec_itemValues rest).bind fun values hrest =>
      .ok (.cons h hrest)

theorem spec_entryPairs (entries : List (Datum × Datum)) :
    Outcome (entryPlaces entries) (ReadsEntries entries) (entryPairs entries) := by
  match entries with
  | [] => exact .ok .nil
  | (k, d) :: rest =>
    rw [entryPlaces, entryPairs, ← List.append_nil (entryPlaces rest)]
    exact (Outcome.key k).bind fun key hkey => (spec_toValue d).bind fun v h =>
      (spec_entryPairs rest).bind fun pairs hrest => .ok (.cons hkey h hrest)

end

/-! ## What is read is what the data stand for -/

mutual

theorem toValue_of_reads {d : Datum} {v : Value} (h : Reads d v) : d.toValue = .ok v := by
  cases h with
  | unit => rfl
  | absent => rfl
  | present h =>
    rw [toValue]
    exact toValue_of_reads h
  | bool b => rfl
  | integer n => rfl
  | number x => rfl
  | char c => rfl
  | text s => rfl
  | list h =>
    rw [toValue, itemValues_of_reads h]
    rfl
  | map h hasc hlast =>
    rename_i entries pairs content
    have hcontent : content = Entries.ofPairs pairs :=
      Entries.eq_of_get?_eq hasc (Entries.ascending_ofPairs pairs) fun key => by
        rw [hlast, Entries.get?_ofPairs]
    rw [toValue, entryPairs_of_reads h, hcontent]
    rfl

theorem itemValues_of_reads {items : List Datum} {values : List Value}
    (h : ReadsItems items values) : itemValues items = .ok values := by
  cases h with
  | nil => rfl
  | cons h hrest =>
    rw [itemValues, toValue_of_reads h, itemValues_of_reads hrest]
    rfl

theorem entryPairs_of_reads {entries : List (Datum × Datum)} {pairs : List (String × Value)}
    (h : ReadsEntries entries pairs) : entryPairs entries = .ok pairs := by
  cases h with
  | nil => rfl
  | cons hkey h hrest =>
    rw [entryPairs, toKey_of_readsKey hkey, toValue_of_reads h, entryPairs_of_reads hrest]
    rfl

end

/-- **The grammar of data.** Data are read exactly if they fit at all places: there are values of
every kind that is found where a value is wanted, and every key is a character, a text or the bytes
of a text. They are read as the value that they stand for. Otherwise the mismatch at the first
place that does not fit is reported, whatever comes behind it. -/
theorem accepts_grammar (d : Datum) :
    ((∃ v, d.toValue = .ok v) ↔ ∀ p ∈ d.places, p.fits = true) ∧
    (∀ v, d.toValue = .ok v ↔ Reads d v) ∧
    (∀ m, d.toValue = .error m ↔
      ∃ p, d.places.find? (fun p => !p.fits) = some p ∧ m = p.mismatch) := by
  have hspec := spec_toValue d
  cases hd : d.toValue with
  | ok v =>
    rw [hd] at hspec
    obtain ⟨hfits, hreads⟩ := hspec
    refine ⟨iff_of_true ⟨v, rfl⟩ hfits, fun w => ⟨?_, fun h => ?_⟩, fun m => ⟨?_, ?_⟩⟩
    · rintro ⟨⟩
      exact hreads
    · rw [← hd]
      exact toValue_of_reads h
    · rintro ⟨⟩
    · rintro ⟨p, hp, -⟩
      have hmisfit := List.find?_some hp
      rw [hfits p (List.mem_of_find?_eq_some hp)] at hmisfit
      cases hmisfit
  | error m =>
    rw [hd] at hspec
    obtain ⟨p, hp, rfl⟩ := hspec
    refine ⟨iff_of_false ?_ fun hfits => ?_, fun w => ⟨?_, fun h => ?_⟩, fun m => ⟨?_, ?_⟩⟩
    · rintro ⟨v, ⟨⟩⟩
    · have hmisfit := List.find?_some hp
      rw [hfits p (List.mem_of_find?_eq_some hp)] at hmisfit
      cases hmisfit
    · rintro ⟨⟩
    · rw [toValue_of_reads h] at hd
      cases hd
    · rintro ⟨⟩
      exact ⟨p, hp, rfl⟩
    · rintro ⟨q, hq, rfl⟩
      rw [Option.some.inj (hp.symm.trans hq)]

/-- It is not only characters and texts that do as keys. -/
theorem bytes_fit_as_key :
    ¬ ∀ d : Datum, (∃ v, d.toValue = .ok v) ↔
      ∀ p ∈ d.places, match p.wanted with
        | .anyValue => p.found.hasValue = true
        | .key => p.found.isText = true := by
  intro h
  have hread : (map [(bytes "k".toByteArray, integer 1)]).toValue =
      .ok (.ofPairs [("k", .number (.ofInt 1))]) := by
    have hkey : toKey (bytes "k".toByteArray) = .ok "k" := by
      rw [toKey, String.fromUTF8?, dif_pos "k".isValidUTF8]
      rfl
    rw [toValue, entryPairs, hkey]
    rfl
  have hplaces := (h (map [(bytes "k".toByteArray, integer 1)])).1 ⟨_, hread⟩
  have hbytes := hplaces ⟨.key, bytes "k".toByteArray⟩
    (List.mem_cons_of_mem _ List.mem_cons_self)
  cases hbytes

end Datum

end RuntimeContracts
