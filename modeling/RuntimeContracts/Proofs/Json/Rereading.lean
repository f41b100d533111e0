import RuntimeContracts.Proofs.Json.RoundTrip

/-!
# Values that were read from JSON

A text of JSON has nothing to lose. There is no undefined value in it and no number that is not
finite, since the reader refuses numbers beyond them, and it is nested no deeper than the reader
goes. So the value that was read from it is its own canonical form, and it is read back from the
text that is written of it.

* `Value.FitsJson`: a value that JSON has a form for, within the reader's depth.
* `Json.readSequence_forall`: what the reader of the items makes is what is among the items.
* `Json.fitsJson_readNumber`, `Json.fitsJson_readValue`: the reader follows the text with this as
  its invariant, and the brackets around a piece of the text count the depth.
* `Value.ofJson?_toJson_of_read`: a value that was read is written and read back unchanged.
-/

namespace RuntimeContracts

namespace Value

/-- The value is its own canonical form, and it is nested no deeper than the limit. -/
structure FitsJson (limit : Nat) (v : Value) : Prop where
  depth_le : v.depth ≤ limit
  canon_eq : v.canon = v

theorem FitsJson.number {limit : Nat} {x : Binary64} (hx : x.isFinite = true) :
    FitsJson limit (number x) :=
  ⟨Nat.zero_le limit, if_pos hx⟩

theorem FitsJson.array {limit : Nat} {items : List Value} (h : ∀ v ∈ items, FitsJson limit v) :
    FitsJson (limit + 1) (array items) := by
  refine ⟨Nat.succ_le_succ (itemsDepth_le_iff.2 fun v hv => (h v hv).depth_le), ?_⟩
  rw [canon_array, List.map_congr_left fun v hv => (h v hv).canon_eq, List.map_id']

theorem FitsJson.object {limit : Nat} {entries : Entries Value}
    (h : ∀ e ∈ entries, FitsJson limit e.2) : FitsJson (limit + 1) (object entries) := by
  refine ⟨Nat.succ_le_succ (entriesDepth_le_iff.2 fun e he => (h e he).depth_le), ?_⟩
  have hentries : entries.map (Prod.map id canon) = entries.map id :=
    List.map_congr_left fun e he => Prod.ext rfl (h e he).canon_eq
  rw [canon_object, Entries.mapValues, hentries, List.map_id]

end Value

/-- What is read from the datum is a value that JSON has a form for. -/
def Datum.FitsJson (limit : Nat) (d : Datum) : Prop :=
  ∀ v, d.toValue = .ok v → v.FitsJson limit

theorem Datum.FitsJson.of_eq {limit : Nat} {d : Datum} {v : Value} (hd : d.toValue = .ok v)
    (hv : v.FitsJson limit) : d.FitsJson limit := by
  intro w hw
  obtain rfl := Except.ok.inj (hd.symm.trans hw)
  exact hv

theorem Datum.FitsJson.list {limit : Nat} {items : List Datum}
    (h : ∀ d ∈ items, FitsJson limit d) : FitsJson (limit + 1) (list items) := by
  intro v hv
  obtain ⟨values, hvalues, rfl⟩ := exists_of_toValue_list hv
  exact .array (forall_itemValues hvalues h)

theorem Datum.FitsJson.map {limit : Nat} {entries : List (Datum × Datum)}
    (h : ∀ e ∈ entries, FitsJson limit e.2) : FitsJson (limit + 1) (map entries) := by
  intro v hv
  obtain ⟨pairs, hpairs, rfl⟩ := exists_of_toValue_map hv
  have hfits := forall_entryPairs hpairs h
  exact .object fun e he => hfits e (Entries.mem_of_mem_ofPairs he)

namespace Json

/-! ## Numbers -/

theorem fitsJson_numberDatum? {negative : Bool} {whole : List Char} {fraction : Option (List Char)}
    {exponent : Option Int} {d : Datum} (limit : Nat)
    (h : numberDatum? negative whole fraction exponent = some d) : d.FitsJson limit := by
  have hinteger {n : Int} (hn : n.natAbs < 2 ^ 128) : (Datum.integer n).FitsJson limit :=
    .of_eq rfl (.number (Binary64.isFinite_ofInt hn))
  simp only [numberDatum?] at h
  split at h
  · next hfits =>
    obtain rfl := Option.some.inj h
    simp only [Bool.and_eq_true, decide_eq_true_eq] at hfits
    exact hinteger (by omega)
  · split at h
    · next hfits =>
      obtain rfl := Option.some.inj h
      simp only [Bool.and_eq_true, decide_eq_true_eq] at hfits
      exact hinteger (by omega)
    · split at h
      · next hfinite =>
        obtain rfl := Option.some.inj h
        refine .of_eq rfl (.number (decide_eq_true ?_))
        rwa [Binary64.magnitude_ofMagnitude (Nat.lt_trans hfinite (by decide))]
      · cases h

theorem fitsJson_readUnsigned {negative : Bool} {cs rest : List Char} {d : Datum} (limit : Nat)
    (h : readUnsigned negative cs = some (d, rest)) : d.FitsJson limit := by
  obtain ⟨⟨whole, cs₁⟩, -, h⟩ := Option.bind_eq_some_iff.1 h
  obtain ⟨⟨fraction, cs₂⟩, -, h⟩ := Option.bind_eq_some_iff.1 h
  obtain ⟨⟨exponent, cs₃⟩, -, h⟩ := Option.bind_eq_some_iff.1 h
  obtain ⟨d', hd', h⟩ := Option.bind_eq_some_iff.1 h
  obtain ⟨rfl, -⟩ := Prod.mk.inj (Option.some.inj h)
  exact fitsJson_numberDatum? limit hd'

theorem fitsJson_readNumber {cs rest : List Char} {d : Datum} (limit : Nat)
    (h : readNumber cs = some (d, rest)) : d.FitsJson limit := by
  unfold readNumber at h
  split at h <;> exact fitsJson_readUnsigned limit h

/-! ## Items -/

/-- What a reader makes of a piece of the text that another reader has read. -/
theorem exists_of_map_eq_some {x : Option (γ × List Char)} {f : γ → β} {b : β} {rest : List Char}
    (h : (x.map fun (a, r) => (f a, r)) = some (b, rest)) : ∃ a, x = some (a, rest) ∧ b = f a := by
  obtain ⟨⟨a, r⟩, ha, heq⟩ := Option.map_eq_some_iff.1 h
  obtain ⟨rfl, rfl⟩ := Prod.mk.inj heq
  exact ⟨a, ha, rfl⟩

section

variable {item : Reader β} {closing : Char} {p : β → Prop}
  (hitem : ∀ cs d rest, item cs = some (d, rest) → p d)

include hitem

theorem readItems_forall {fuel : Nat} {cs rest : List Char} {ds : List β}
    (h : readItems item closing fuel cs = some (ds, rest)) : ∀ d ∈ ds, p d := by
  induction fuel generalizing cs rest ds with
  | zero => cases h
  | succ fuel ih =>
    rw [readItems] at h
    split at h
    · cases h
    · next d rest₁ hd =>
      split at h
      · split at h
        · obtain ⟨tail, htail, rfl⟩ := exists_of_map_eq_some h
          exact List.forall_mem_cons.2 ⟨hitem _ _ _ hd, ih htail⟩
        · split at h
          · obtain ⟨rfl, -⟩ := Prod.mk.inj (Option.some.inj h)
            exact List.forall_mem_singleton.2 (hitem _ _ _ hd)
          · cases h
      · cases h

/-- What holds of everything that `item` reads holds of all items. -/
theorem readSequence_forall {cs rest : List Char} {ds : List β}
    (h : readSequence item closing cs = some (ds, rest)) : ∀ d ∈ ds, p d := by
  simp only [readSequence] at h
  split at h
  · cases h
  · split at h
    · obtain ⟨rfl, -⟩ := Prod.mk.inj (Option.some.inj h)
      exact List.forall_mem_nil p
    · exact readItems_forall hitem h

end

theorem fitsJson_readMember {value : Reader Datum} {limit : Nat}
    (hvalue : ∀ cs d rest, value cs = some (d, rest) → d.FitsJson limit) {cs rest : List Char}
    {e : Datum × Datum} (h : readMember value cs = some (e, rest)) : e.2.FitsJson limit := by
  simp only [readMember] at h
  split at h
  · split at h
    · cases h
    · split at h
      · obtain ⟨d, hd, rfl⟩ := exists_of_map_eq_some h
        exact hvalue _ _ _ hd
      · cases h
  · cases h

/-! ## Values -/

/-- Whatever is read within a depth is a value that JSON has a form for within that depth. -/
theorem fitsJson_readValue (depth : Nat) {cs rest : List Char} {d : Datum}
    (h : readValue depth cs = some (d, rest)) : d.FitsJson depth := by
  rw [readValue.eq_def] at h
  split at h
  -- null, true, false and a string, each of which is kept as it is
  · obtain ⟨rfl, -⟩ := Prod.mk.inj (Option.some.inj h)
    exact .of_eq rfl ⟨Nat.zero_le depth, rfl⟩
  · obtain ⟨rfl, -⟩ := Prod.mk.inj (Option.some.inj h)
    exact .of_eq rfl ⟨Nat.zero_le depth, rfl⟩
  · obtain ⟨rfl, -⟩ := Prod.mk.inj (Option.some.inj h)
    exact .of_eq rfl ⟨Nat.zero_le depth, rfl⟩
  · obtain ⟨s, -, heq⟩ := Option.map_eq_some_iff.1 h
    obtain ⟨rfl, -⟩ := Prod.mk.inj heq
    exact .of_eq rfl ⟨Nat.zero_le depth, rfl⟩
  -- a bracket or a brace, which takes one of the depth
  · cases depth with
    | zero => cases h
    | succ depth =>
      obtain ⟨ds, hds, rfl⟩ := exists_of_map_eq_some h
      exact .list (readSequence_forall (fun _ _ _ => fitsJson_readValue depth) hds)
  · cases depth with
    | zero => cases h
    | succ depth =>
      obtain ⟨es, hes, rfl⟩ := exists_of_map_eq_some h
      have hmember : ∀ cs e rest, readMember (readValue depth) cs = some (e, rest) →
          e.2.FitsJson depth := fun _ _ _ =>
        fitsJson_readMember fun _ _ _ => fitsJson_readValue depth
      exact .map (readSequence_forall hmember hes)
  · exact fitsJson_readNumber depth h

theorem fitsJson_read? {text : String} {d : Datum} (h : read? text = some d) :
    d.FitsJson nestingLimit := by
  unfold read? at h
  split at h
  · next hd =>
    split at h
    · obtain rfl := Option.some.inj h
      exact fitsJson_readValue nestingLimit hd
    · cases h
  · cases h

end Json

namespace Value

theorem fitsJson_ofJson? {text : String} {v : Value} (h : ofJson? text = some v) :
    v.FitsJson Json.nestingLimit := by
  obtain ⟨d, hd, hv⟩ := ofJson?_eq_some_iff.1 h
  exact Json.fitsJson_read? hd v hv

/-- **What was read is written and read back unchanged**, whatever text it was read from. -/
theorem ofJson?_toJson_of_read {text : String} {v : Value} (h : ofJson? text = some v) :
    ofJson? v.toJson = some v := by
  have hfits := fitsJson_ofJson? h
  rw [ofJson?_toJson (isOrdered_ofJson? h), if_pos hfits.depth_le, hfits.canon_eq]

end Value

end RuntimeContracts
