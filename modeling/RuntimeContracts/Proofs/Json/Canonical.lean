import RuntimeContracts.Interchange.Reading
import RuntimeContracts.Proofs.Value.Equality

/-!
# What JSON keeps of a value

JSON has no form for undefined and for numbers that are not finite. What is left of a value once
null has taken their places is its canonical form, which is the value that its text is read as.

* `Value.canon`: the canonical form of a value.
* `Value.canon_canon`, `Value.depth_canon`, `Value.isOrdered_canon`: nothing else is changed.
* `Value.canon_beq_iff`: the values that equal their canonical form.
* `Value.toValue_jsonDatum`: the data in the text of a value stand for its canonical form.
-/

namespace RuntimeContracts.Value

/-! ## Nesting -/

mutual

/-- How many arrays and objects stand inside each other. -/
def depth : Value → Nat
  | array items => itemsDepth items + 1
  | object entries => entriesDepth entries + 1
  | _ => 0

def itemsDepth : List Value → Nat
  | [] => 0
  | v :: rest => max (depth v) (itemsDepth rest)

def entriesDepth : List (String × Value) → Nat
  | [] => 0
  | (_, v) :: rest => max (depth v) (entriesDepth rest)

end

theorem itemsDepth_le_iff {items : List Value} {n : Nat} :
    itemsDepth items ≤ n ↔ ∀ v ∈ items, v.depth ≤ n := by
  induction items with
  | nil => simp [itemsDepth]
  | cons v rest ih => rw [itemsDepth, Nat.max_le, ih, List.forall_mem_cons]

theorem entriesDepth_le_iff {entries : Entries Value} {n : Nat} :
    entriesDepth entries ≤ n ↔ ∀ e ∈ entries, e.2.depth ≤ n := by
  induction entries with
  | nil => simp [entriesDepth]
  | cons e rest ih =>
    obtain ⟨k, v⟩ := e
    rw [entriesDepth, Nat.max_le, ih, List.forall_mem_cons]

/-! ## Canonical form -/

mutual

/-- The value with null in place of everything that JSON has no form for, at every depth. -/
def canon : Value → Value
  | undefined | null => null
  | bool b => bool b
  | number x => if x.isFinite then number x else null
  | string s => string s
  | array items => array (canonItems items)
  | object entries => object (canonEntries entries)

def canonItems : List Value → List Value
  | [] => []
  | v :: rest => canon v :: canonItems rest

def canonEntries : List (String × Value) → List (String × Value)
  | [] => []
  | (k, v) :: rest => (k, canon v) :: canonEntries rest

end

theorem canonItems_eq (items : List Value) : canonItems items = items.map canon := by
  induction items with
  | nil => rfl
  | cons v rest ih => rw [canonItems, ih, List.map_cons]

theorem canonEntries_eq (entries : Entries Value) :
    canonEntries entries = entries.mapValues canon := by
  induction entries with
  | nil => rfl
  | cons e rest ih =>
    obtain ⟨k, v⟩ := e
    rw [canonEntries, ih]
    rfl

theorem canon_array (items : List Value) : canon (array items) = array (items.map canon) := by
  rw [canon, canonItems_eq]

theorem canon_object (entries : Entries Value) :
    canon (object entries) = object (entries.mapValues canon) := by
  rw [canon, canonEntries_eq]

theorem canon_canon (v : Value) : v.canon.canon = v.canon := by
  induction v using nestedInduction with
  | undefined | null | bool | string => rfl
  | number x => by_cases hx : x.isFinite <;> simp [canon, hx]
  | array items ih =>
    rw [canon_array, canon_array, List.map_map]
    exact congrArg array (List.map_congr_left ih)
  | object entries ih =>
    rw [canon_object, canon_object]
    unfold Entries.mapValues
    rw [List.map_map]
    exact congrArg object (List.map_congr_left fun e he => Prod.ext rfl (ih e he))

theorem itemsDepth_map {f : Value → Value} {items : List Value}
    (h : ∀ v ∈ items, (f v).depth = v.depth) : itemsDepth (items.map f) = itemsDepth items := by
  induction items with
  | nil => rfl
  | cons v rest ih =>
    obtain ⟨hv, hrest⟩ := List.forall_mem_cons.1 h
    rw [List.map_cons, itemsDepth, itemsDepth, hv, ih hrest]

theorem entriesDepth_mapValues {f : Value → Value} {entries : Entries Value}
    (h : ∀ e ∈ entries, (f e.2).depth = e.2.depth) :
    entriesDepth (entries.mapValues f) = entriesDepth entries := by
  induction entries with
  | nil => rfl
  | cons e rest ih =>
    obtain ⟨k, v⟩ := e
    obtain ⟨hv, hrest⟩ := List.forall_mem_cons.1 h
    have htail := ih hrest
    rw [Entries.mapValues] at htail ⊢
    rw [List.map_cons, Prod.map, entriesDepth, entriesDepth, hv, htail]

theorem depth_canon (v : Value) : v.canon.depth = v.depth := by
  induction v using nestedInduction with
  | undefined | null | bool | string => rfl
  | number x => by_cases hx : x.isFinite <;> simp [canon, hx, depth]
  | array items ih =>
    rw [canon_array, depth, depth, itemsDepth_map ih]
  | object entries ih =>
    rw [canon_object, depth, depth, entriesDepth_mapValues ih]

theorem isOrdered_canon {v : Value} (h : v.IsOrdered) : v.canon.IsOrdered := by
  induction v using nestedInduction with
  | undefined | null | bool | string => trivial
  | number x =>
    rw [canon]
    split <;> trivial
  | array items ih =>
    rw [canon_array, IsOrdered, allOrdered_iff]
    rw [IsOrdered, allOrdered_iff] at h
    intro w hw
    obtain ⟨v, hv, rfl⟩ := List.mem_map.1 hw
    exact ih v hv (h v hv)
  | object entries ih =>
    obtain ⟨hasc, hentries⟩ := h
    rw [entriesOrdered_iff] at hentries
    rw [canon_object]
    refine ⟨List.pairwise_map.2 hasc, entriesOrdered_iff.2 fun e' he' => ?_⟩
    obtain ⟨e, he, rfl⟩ := List.mem_map.1 he'
    exact ih e he (hentries e he)

/-! ## Values that are kept as they are -/

/-- Everything in the value has a form in JSON. -/
structure IsExact (v : Value) : Prop where
  undefined : ¬ PartOf undefined v
  nan : ∀ x, PartOf (number x) v → x.isNaN = false
  infinite : ∀ x, PartOf (number x) v → x.isInfinite = false

theorem isExact_iff_content (v : Value) (hu : v.isUndefined = false) (hn : v.isNumber = false) :
    IsExact v ↔ ∀ u ∈ v.content, IsExact u := by
  constructor
  · intro h u hmem
    exact ⟨fun hp => h.undefined (.inside hmem hp), fun x hp => h.nan x (.inside hmem hp),
      fun x hp => h.infinite x (.inside hmem hp)⟩
  · intro h
    refine ⟨?_, ?_, ?_⟩
    · intro hp
      cases hp with
      | self => cases hu
      | inside hmem hp => exact (h _ hmem).undefined hp
    · intro x hp
      cases hp with
      | self => cases hn
      | inside hmem hp => exact (h _ hmem).nan x hp
    · intro x hp
      cases hp with
      | self => cases hn
      | inside hmem hp => exact (h _ hmem).infinite x hp

theorem isExact_number {x : Binary64} : IsExact (number x) ↔ x.isFinite = true := by
  have hfinite : x.isFinite = true ↔ x.isNaN = false ∧ x.isInfinite = false := by
    simp only [Binary64.isFinite, Binary64.isNaN, Binary64.isInfinite, decide_eq_true_eq,
      decide_eq_false_iff_not]
    omega
  have honly {w : Value} (hp : PartOf w (number x)) : w = number x := by
    cases hp with
    | self => rfl
    | inside hmem => cases hmem
  rw [hfinite]
  constructor
  · intro h
    exact ⟨h.nan x .self, h.infinite x .self⟩
  · rintro ⟨hnan, hinf⟩
    refine ⟨?_, ?_, ?_⟩
    · intro hp
      cases honly hp
    · intro y hp
      cases honly hp
      exact hnan
    · intro y hp
      cases honly hp
      exact hinf

theorem beqItems_map_iff {f : Value → Value} {items : List Value} :
    beqItems (items.map f) items = true ↔ ∀ v ∈ items, (f v == v) = true := by
  rw [beqItems_iff, ItemsEqual, List.forall₂_map_left_iff, List.forall₂_same]

theorem beqEntries_mapValues_iff {f : Value → Value} {entries : Entries Value} :
    beqEntries (entries.mapValues f) entries = true ↔ ∀ e ∈ entries, (f e.2 == e.2) = true := by
  rw [beqEntries_iff, EntriesEqual, Entries.mapValues, List.forall₂_map_left_iff, List.forall₂_same]
  exact forall₂_congr fun e _ => and_iff_right rfl

/-- A value equals its canonical form if and only if nothing in it is lost. -/
theorem canon_beq_iff {v : Value} : (v.canon == v) = true ↔ IsExact v := by
  induction v using nestedInduction with
  | undefined => exact ⟨nofun, fun h => absurd .self h.undefined⟩
  | null => exact iff_of_true rfl ((isExact_iff_content null rfl rfl).2 nofun)
  | bool b => exact iff_of_true (beq_self_eq_true b) ((isExact_iff_content (bool b) rfl rfl).2 nofun)
  | number x =>
    rw [isExact_number, canon]
    split
    · next hx =>
      have hself : (x == x) = true := by
        rw [Binary64.beq_self, (isExact_number.2 hx).nan x .self]
        rfl
      exact iff_of_true hself hx
    · next hx => exact ⟨nofun, fun h => absurd h hx⟩
  | string s => exact iff_of_true (beq_self_eq_true s) ((isExact_iff_content (string s) rfl rfl).2 nofun)
  | array items ih =>
    rw [isExact_iff_content (array items) rfl rfl, canon_array]
    exact beqItems_map_iff.trans (forall₂_congr ih)
  | object entries ih =>
    rw [isExact_iff_content (object entries) rfl rfl, canon_object, content, List.forall_mem_map]
    exact beqEntries_mapValues_iff.trans (forall₂_congr ih)

/-! ## The data in the text of a value -/

mutual

/-- The data that the text of a value stands for. -/
def jsonDatum : Value → Datum
  | undefined | null => .unit
  | bool b => .bool b
  | number x => if x.isFinite then .number x else .unit
  | string s => .text s
  | array items => .list (jsonItems items)
  | object entries => .map (jsonEntries entries)

def jsonItems : List Value → List Datum
  | [] => []
  | v :: rest => jsonDatum v :: jsonItems rest

def jsonEntries : List (String × Value) → List (Datum × Datum)
  | [] => []
  | (k, v) :: rest => (.text k, jsonDatum v) :: jsonEntries rest

end

/-- The datum of a key and the one of its value. -/
def jsonEntry (e : String × Value) : Datum × Datum := (.text e.1, jsonDatum e.2)

theorem jsonItems_eq (items : List Value) : jsonItems items = items.map jsonDatum := by
  induction items with
  | nil => rfl
  | cons v rest ih => rw [jsonItems, ih, List.map_cons]

theorem jsonEntries_eq (entries : Entries Value) : jsonEntries entries = entries.map jsonEntry := by
  induction entries with
  | nil => rfl
  | cons e rest ih =>
    obtain ⟨k, v⟩ := e
    rw [jsonEntries, ih, List.map_cons, jsonEntry]

/-- These data, unless the value is nested too deep. -/
def datumWithin (v : Value) (limit : Nat) : Option Datum :=
  if v.depth ≤ limit then some v.jsonDatum else none

theorem mapM_guarded {p : α → Prop} [DecidablePred p] (f : α → β) (items : List α) :
    items.mapM (fun a => if p a then some (f a) else none) =
      if ∀ a ∈ items, p a then some (items.map f) else none := by
  induction items with
  | nil => rfl
  | cons a items ih =>
    rw [List.mapM_cons, ih]
    by_cases ha : p a
    · by_cases hitems : ∀ b ∈ items, p b
      · rw [if_pos ha, if_pos hitems, if_pos (List.forall_mem_cons.2 ⟨ha, hitems⟩)]
        rfl
      · rw [if_pos ha, if_neg hitems, if_neg fun h => hitems (List.forall_mem_cons.1 h).2]
        rfl
    · rw [if_neg ha, if_neg fun h => ha (List.forall_mem_cons.1 h).1]
      rfl

theorem datumWithin_array (items : List Value) (limit : Nat) :
    (array items).datumWithin (limit + 1) =
      (items.mapM fun v : Value => v.datumWithin limit).map .list := by
  unfold datumWithin
  rw [mapM_guarded, depth, jsonDatum, jsonItems_eq]
  simp only [Nat.add_le_add_iff_right, itemsDepth_le_iff]
  split <;> rfl

theorem datumWithin_object (entries : Entries Value) (limit : Nat) :
    (object entries).datumWithin (limit + 1) =
      (entries.mapM fun e : String × Value =>
        (e.2.datumWithin limit).map (Datum.text e.1, ·)).map .map := by
  have hentry (e : String × Value) : (e.2.datumWithin limit).map (Datum.text e.1, ·) =
      if e.2.depth ≤ limit then some (jsonEntry e) else none := by
    rw [datumWithin]
    split <;> rfl
  simp only [hentry]
  rw [mapM_guarded, datumWithin, depth, jsonDatum, jsonEntries_eq]
  simp only [Nat.add_le_add_iff_right, entriesDepth_le_iff]
  split <;> rfl

theorem itemValues_map {items : List Value}
    (h : ∀ v ∈ items, v.jsonDatum.toValue = .ok v.canon) :
    Datum.itemValues (items.map jsonDatum) = .ok (items.map canon) := by
  induction items with
  | nil => rfl
  | cons v rest ih =>
    obtain ⟨hv, hrest⟩ := List.forall_mem_cons.1 h
    rw [List.map_cons, Datum.itemValues, hv, ih hrest]
    rfl

theorem entryPairs_map {entries : Entries Value}
    (h : ∀ e ∈ entries, e.2.jsonDatum.toValue = .ok e.2.canon) :
    Datum.entryPairs (entries.map jsonEntry) = .ok (entries.mapValues canon) := by
  induction entries with
  | nil => rfl
  | cons e rest ih =>
    obtain ⟨hv, hrest⟩ := List.forall_mem_cons.1 h
    rw [List.map_cons, jsonEntry, Datum.entryPairs, hv, ih hrest]
    rfl

/-- The keys of an object come in their order, so none of its entries is replaced by a later one
when the object is made again. -/
theorem toValue_jsonDatum {v : Value} (h : v.IsOrdered) : v.jsonDatum.toValue = .ok v.canon := by
  induction v using nestedInduction with
  | undefined | null | bool | string => rfl
  | number x => by_cases hx : x.isFinite <;> simp [jsonDatum, canon, hx, Datum.toValue]
  | array items ih =>
    rw [IsOrdered, allOrdered_iff] at h
    rw [jsonDatum, jsonItems_eq, canon_array, Datum.toValue,
      itemValues_map fun v hv => ih v hv (h v hv)]
    rfl
  | object entries ih =>
    have hcanon := isOrdered_canon h
    rw [canon_object] at hcanon
    obtain ⟨-, hentries⟩ := h
    rw [entriesOrdered_iff] at hentries
    rw [jsonDatum, jsonEntries_eq, canon_object, Datum.toValue,
      entryPairs_map fun e he => ih e he (hentries e he)]
    exact congrArg (fun es => Except.ok (object es)) (Entries.ofPairs_of_ascending hcanon.1)

end RuntimeContracts.Value
