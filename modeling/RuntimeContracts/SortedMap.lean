import RuntimeContracts.Text.ByteOrder

/-!
# Maps sorted by their keys

A map keeps its entries in ascending order of the bytes of their keys, so a key occurs once and
two maps with the same content are the same map.

* `Entries.get?_insert`, `Entries.mem_keys_insert`: what an insertion changes.
* `Entries.ascending_insert`: an insertion keeps the order.
* `Entries.length_insert`: an insertion of a new key adds one entry.
* `Entries.get?_ofPairs`, `Entries.mem_of_mem_ofPairs`, `Entries.ofPairs_of_ascending`: pairs in any
  order, and pairs in order.
* `Entries.eq_of_get?_eq`: entries in order are determined by what is found under each key.
* `Entries.insert_mapValues`: entries whose values are derived from others stay so.
* `SortedMap`: entries together with their order.
-/
namespace RuntimeContracts

open Text (Before before_or_eq_or_before)

/-- Keys with their values. -/
abbrev Entries (β : Type u) := List (String × β)

namespace Entries

/-- The keys ascend strictly. -/
def Ascending (entries : Entries β) : Prop := entries.Pairwise fun a b => Before a.1 b.1

def keys (entries : Entries β) : List String := entries.map Prod.fst

def get? (key : String) : Entries β → Option β
  | [] => none
  | (k, v) :: rest => if k = key then some v else get? key rest

/-- The entries with a key set to a value, at its place in the order. -/
def insert (key : String) (value : β) : Entries β → Entries β
  | [] => [(key, value)]
  | (k, v) :: rest =>
    if k = key then (key, value) :: rest
    else if Before key k then (key, value) :: (k, v) :: rest
    else (k, v) :: insert key value rest

/-- The pairs inserted one after another, so the last pair of a key wins. -/
def ofPairs (pairs : List (String × β)) : Entries β :=
  pairs.foldl (fun entries pair => entries.insert pair.1 pair.2) []

/-! ## Laws of insertion -/

theorem get?_insert (key key' : String) (value : β) (entries : Entries β) :
    (entries.insert key value).get? key' =
      if key = key' then some value else entries.get? key' := by
  induction entries with
  | nil => simp [insert, get?]
  | cons e rest ih =>
    obtain ⟨k, v⟩ := e
    by_cases hk : k = key
    · subst hk
      by_cases hk' : k = key' <;> simp [insert, get?, hk']
    · by_cases hb : Before key k
      · simp [insert, get?, hk, hb]
      · simp only [insert, hk, hb, if_false, get?, ih]
        by_cases hk' : k = key'
        · have : ¬ key = key' := fun h => hk (hk'.trans h.symm)
          simp [hk', this]
        · simp [hk']

theorem mem_keys_insert {key key' : String} {value : β} {entries : Entries β} :
    key' ∈ (entries.insert key value).keys ↔ key' = key ∨ key' ∈ entries.keys := by
  induction entries with
  | nil => simp [insert, keys]
  | cons e rest ih =>
    obtain ⟨k, v⟩ := e
    simp only [keys] at ih
    by_cases hk : k = key
    · subst hk; simp [insert, keys]
    · by_cases hb : Before key k
      · simp [insert, keys, hk, hb]
      · simp [insert, keys, hk, hb, ih]
        constructor <;> rintro (h | h | h) <;> simp [h]

theorem mem_of_mem_insert {entries : Entries β} {key : String} {value : β} {e : String × β}
    (h : e ∈ entries.insert key value) : e = (key, value) ∨ e ∈ entries := by
  induction entries with
  | nil => exact .inl (List.mem_singleton.1 h)
  | cons e' rest ih =>
    obtain ⟨k, v⟩ := e'
    rw [insert] at h
    split at h
    · exact (List.mem_cons.1 h).imp id (List.mem_cons_of_mem _)
    · split at h
      · exact List.mem_cons.1 h
      · rcases List.mem_cons.1 h with rfl | hrest
        · exact .inr List.mem_cons_self
        · exact (ih hrest).imp id (List.mem_cons_of_mem _)

theorem ascending_insert {entries : Entries β} (h : entries.Ascending) (key : String) (value : β) :
    (entries.insert key value).Ascending := by
  induction entries with
  | nil => simp [insert, Ascending]
  | cons e rest ih =>
    obtain ⟨k, v⟩ := e
    have hrest := List.pairwise_cons.1 h
    by_cases hk : k = key
    · subst hk
      rw [insert, if_pos rfl]
      exact List.pairwise_cons.2 ⟨hrest.1, hrest.2⟩
    · by_cases hb : Before key k
      · simp only [insert, hk, hb, if_false, if_true]
        refine List.pairwise_cons.2 ⟨fun b hmem => ?_, h⟩
        rcases List.mem_cons.1 hmem with rfl | hmem
        · exact hb
        · exact hb.trans (hrest.1 b hmem)
      · simp only [insert, hk, hb, if_false]
        refine List.pairwise_cons.2 ⟨fun b hmem => ?_, ih hrest.2⟩
        have hkey : b.1 ∈ (insert key value rest).keys := List.mem_map_of_mem hmem
        rcases mem_keys_insert.1 hkey with heq | hold
        · rw [heq]
          rcases before_or_eq_or_before k key with hlt | heq' | hgt
          · exact hlt
          · exact absurd heq' hk
          · exact absurd hgt hb
        · obtain ⟨e, he, hfst⟩ := List.mem_map.1 hold
          rw [← hfst]
          exact hrest.1 e he

theorem ascending_ofPairs (pairs : List (String × β)) : (ofPairs pairs).Ascending := by
  suffices ∀ entries : Entries β, entries.Ascending →
      (pairs.foldl (fun entries pair => entries.insert pair.1 pair.2) entries).Ascending from
    this [] List.Pairwise.nil
  induction pairs with
  | nil => exact fun _ h => h
  | cons pair rest ih => exact fun entries h => ih _ (ascending_insert h pair.1 pair.2)

theorem get?_isSome {key : String} {entries : Entries β} :
    (entries.get? key).isSome = true ↔ key ∈ entries.keys := by
  induction entries with
  | nil => simp [get?, keys]
  | cons e rest ih =>
    obtain ⟨k, v⟩ := e
    simp only [keys] at ih
    by_cases hk : k = key
    · simp [get?, keys, hk]
    · have : ¬ key = k := fun h => hk h.symm
      simp [get?, keys, hk, this, ih]

theorem length_insert {key : String} {value : β} {entries : Entries β}
    (h : entries.get? key = none) :
    (entries.insert key value).length = entries.length + 1 := by
  induction entries with
  | nil => rfl
  | cons e rest ih =>
    obtain ⟨k, v⟩ := e
    by_cases hk : k = key
    · simp [get?, hk] at h
    · simp only [get?, hk, if_false] at h
      by_cases hb : Before key k
      · simp [insert, hk, hb]
      · simp [insert, hk, hb, ih h]

/-! ## Entries of pairs -/

/-- The value of the last pair with a key. -/
def lastValue? (key : String) (pairs : List (String × β)) : Option β :=
  (pairs.filter fun pair => pair.1 = key).getLast?.map Prod.snd

theorem lastValue?_concat (key : String) (pairs : List (String × β)) (pair : String × β) :
    lastValue? key (pairs ++ [pair]) =
      if pair.1 = key then some pair.2 else lastValue? key pairs := by
  by_cases h : pair.1 = key <;> simp [lastValue?, List.filter_append, h]

theorem ofPairs_concat (pairs : List (String × β)) (pair : String × β) :
    ofPairs (pairs ++ [pair]) = (ofPairs pairs).insert pair.1 pair.2 := by
  rw [ofPairs, List.foldl_append]
  rfl

/-- Only what is among the pairs becomes an entry. -/
theorem mem_of_mem_ofPairs {pairs : List (String × β)} {e : String × β} (h : e ∈ ofPairs pairs) :
    e ∈ pairs := by
  induction hlength : pairs.length generalizing pairs with
  | zero =>
    rw [List.eq_nil_of_length_eq_zero hlength] at h
    cases h
  | succ n ih =>
    rcases List.eq_nil_or_concat pairs with rfl | ⟨front, pair, rfl⟩
    · cases h
    · rw [List.concat_eq_append] at h hlength ⊢
      rw [ofPairs_concat] at h
      rcases mem_of_mem_insert h with rfl | hfront
      · exact List.mem_append_right front (List.mem_singleton.2 rfl)
      · exact List.mem_append_left _ (ih hfront (by simpa using hlength))

theorem get?_ofPairs (key : String) (pairs : List (String × β)) :
    (ofPairs pairs).get? key = lastValue? key pairs := by
  induction h : pairs.length generalizing pairs with
  | zero => rw [List.eq_nil_of_length_eq_zero h]; rfl
  | succ n ih =>
    rcases List.eq_nil_or_concat pairs with rfl | ⟨front, pair, rfl⟩
    · cases h
    · rw [List.concat_eq_append] at h ⊢
      rw [ofPairs_concat, get?_insert, lastValue?_concat, ih front (by simpa using h)]

/-- A key behind all others is added at the end. -/
theorem insert_of_forall_before {entries : Entries β} {key : String}
    (h : ∀ e ∈ entries, Before e.1 key) (value : β) :
    entries.insert key value = entries ++ [(key, value)] := by
  induction entries with
  | nil => rfl
  | cons e rest ih =>
    obtain ⟨k, v⟩ := e
    have hk : Before k key := h (k, v) List.mem_cons_self
    rw [insert, if_neg hk.ne, if_neg hk.asymm, ih fun e he => h e (List.mem_cons_of_mem _ he)]
    rfl

/-- Pairs in order are the entries that they make. -/
theorem ofPairs_of_ascending {entries : Entries β} (h : entries.Ascending) :
    ofPairs entries = entries := by
  suffices ∀ front back : Entries β, Ascending (front ++ back) →
      back.foldl (fun es pair => insert pair.1 pair.2 es) front = front ++ back from
    this [] entries h
  intro front back hasc
  induction back generalizing front with
  | nil => exact (List.append_nil front).symm
  | cons pair rest ih =>
    have hlast : ∀ e ∈ front, Before e.1 pair.1 := fun e he =>
      (List.pairwise_append.1 hasc).2.2 e he pair List.mem_cons_self
    have hassoc : front ++ pair :: rest = front ++ [pair] ++ rest := by simp
    rw [List.foldl_cons, insert_of_forall_before hlast, hassoc]
    exact ih (front ++ [pair]) (hassoc ▸ hasc)

theorem get?_eq_none_of_forall_before {entries : Entries β} {key : String}
    (h : ∀ e ∈ entries, Before key e.1) : entries.get? key = none := by
  rw [← Option.not_isSome_iff_eq_none, get?_isSome]
  intro hmem
  obtain ⟨e, he, heq⟩ := List.mem_map.1 hmem
  exact (h e he).ne heq.symm

/-- A key before the first one is not found. -/
theorem get?_eq_none_of_before {key : String} {e : String × β} {rest : Entries β}
    (h : Before key e.1) (hasc : Ascending (e :: rest)) : get? key (e :: rest) = none := by
  refine get?_eq_none_of_forall_before fun e' he' => ?_
  rcases List.mem_cons.1 he' with rfl | he'
  · exact h
  · exact h.trans ((List.pairwise_cons.1 hasc).1 e' he')

theorem get?_cons_self (e : String × β) (rest : Entries β) :
    get? e.1 (e :: rest) = some e.2 := if_pos rfl

/-- Entries in order are determined by what is found under each key. -/
theorem eq_of_get?_eq {as bs : Entries β} (ha : as.Ascending) (hb : bs.Ascending)
    (h : ∀ key, as.get? key = bs.get? key) : as = bs := by
  induction as generalizing bs with
  | nil =>
    cases bs with
    | nil => rfl
    | cons b rest =>
      have hkey := h b.1
      rw [get?_cons_self] at hkey
      cases hkey
  | cons a rest ih =>
    cases bs with
    | nil =>
      have hkey := h a.1
      rw [get?_cons_self] at hkey
      cases hkey
    | cons b rest' =>
      have hrest := List.pairwise_cons.1 ha
      have hrest' := List.pairwise_cons.1 hb
      -- a first key that comes before the other one would be found on one side only
      rcases before_or_eq_or_before a.1 b.1 with hlt | heq | hgt
      · have hkey := h a.1
        rw [get?_cons_self, get?_eq_none_of_before hlt hb] at hkey
        cases hkey
      · have hkey := h a.1
        rw [get?_cons_self, heq, get?_cons_self] at hkey
        obtain rfl : a = b := Prod.ext heq (Option.some.inj hkey)
        rw [ih hrest.2 hrest'.2 fun key => ?_]
        by_cases hk : a.1 = key
        · subst hk
          rw [get?_eq_none_of_forall_before hrest.1, get?_eq_none_of_forall_before hrest'.1]
        · have hother := h key
          rwa [get?, get?, if_neg hk, if_neg hk] at hother
      · have hkey := h b.1
        rw [get?_cons_self, get?_eq_none_of_before hgt ha] at hkey
        cases hkey

/-! ## Entries whose values are derived from others -/

/-- The same keys with derived values. -/
def mapValues (f : β → γ) (entries : Entries β) : Entries γ := entries.map (Prod.map id f)

@[simp] theorem keys_mapValues (f : β → γ) (entries : Entries β) :
    (entries.mapValues f).keys = entries.keys := by
  simp [keys, mapValues, Function.comp_def]

theorem get?_mapValues (f : β → γ) (key : String) (entries : Entries β) :
    (entries.mapValues f).get? key = (entries.get? key).map f := by
  induction entries with
  | nil => rfl
  | cons e rest ih =>
    obtain ⟨k, v⟩ := e
    rw [mapValues] at ih
    by_cases hk : k = key <;> simp [mapValues, get?, hk, ih]

/-- Setting a key and deriving the values go together. -/
theorem insert_mapValues (f : β → γ) (key : String) (value : β) (entries : Entries β) :
    (entries.mapValues f).insert key (f value) = (entries.insert key value).mapValues f := by
  induction entries with
  | nil => rfl
  | cons e rest ih =>
    obtain ⟨k, v⟩ := e
    simp only [mapValues] at ih
    by_cases hk : k = key
    · simp [mapValues, insert, hk]
    · by_cases hb : Before key k <;> simp [mapValues, insert, hk, hb, ih]

end Entries

/-- A map from texts, its entries in ascending order. -/
structure SortedMap (β : Type u) where
  entries : Entries β
  ascending : entries.Ascending

namespace SortedMap

def empty : SortedMap β := ⟨[], List.Pairwise.nil⟩

instance : EmptyCollection (SortedMap β) := ⟨empty⟩

instance : Inhabited (SortedMap β) := ⟨empty⟩

def get? (map : SortedMap β) (key : String) : Option β := map.entries.get? key

def contains (map : SortedMap β) (key : String) : Bool := (map.get? key).isSome

/-- The keys in ascending order. -/
def keys (map : SortedMap β) : List String := map.entries.keys

def size (map : SortedMap β) : Nat := map.entries.length

def isEmpty (map : SortedMap β) : Bool := map.entries.isEmpty

/-- The map with a key set to a value. -/
def insert (map : SortedMap β) (key : String) (value : β) : SortedMap β :=
  ⟨map.entries.insert key value, Entries.ascending_insert map.ascending key value⟩

theorem get?_insert (map : SortedMap β) (key key' : String) (value : β) :
    (map.insert key value).get? key' = if key = key' then some value else map.get? key' :=
  Entries.get?_insert key key' value map.entries

theorem mem_keys_iff {map : SortedMap β} {key : String} :
    key ∈ map.keys ↔ map.contains key = true :=
  Entries.get?_isSome.symm

/-- The keys ascend, so none of them occurs twice. -/
theorem pairwise_keys (map : SortedMap β) : map.keys.Pairwise Before :=
  List.pairwise_map.2 map.ascending

theorem length_keys (map : SortedMap β) : map.keys.length = map.size :=
  List.length_map _

theorem isEmpty_iff {map : SortedMap β} : map.isEmpty = true ↔ map.keys = [] := by
  simp [isEmpty, keys, Entries.keys]

theorem size_insert {map : SortedMap β} {key : String} {value : β} (h : map.contains key = false) :
    (map.insert key value).size = map.size + 1 :=
  Entries.length_insert (by simpa [contains, get?] using h)

end SortedMap

end RuntimeContracts
