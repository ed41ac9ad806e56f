import StorySuite.Proofs.Json.Expressions
import StorySuite.Proofs.Script.Memory

/-!
# Proofs — Json — what embedded data means

The text of a value of data is an expression of a program, and the program has a value for it.  A
`Datum` is such a value; `Expr.datum?` is what an expression that writes data out comes to, and
`Value.meaning` is what the data says.  The two are one except for a key that programs treat apart:
under `__proto__` an object that is written out takes what it inherits from, and gets no property.

* `exists_datum`: every value of data comes to some datum.
* **`datum_eq_meaning_iff`**: it comes to what it means exactly when no object in it has the key
  `__proto__`.
-/

namespace StorySuite.Script

open Decimal

/-- The values that data may come to.  Of an object the own properties are kept, in the order in
which they were made, and what it inherits from. -/
inductive Datum where
  | null
  | bool (b : Bool)
  | number (x : Binary64)
  | infinite (negative : Bool)
  | text (t : StringValue)
  | array (items : List Datum)
  | object (own : List (StringValue × Datum)) (parent : Datum)
  /-- What objects that are written out inherit from. -/
  | objectPrototype

namespace Datum

/-- The value of a number that is written out. -/
def ofNumeral : Numeral → Datum
  | some x => .number x
  | none => .infinite false

/-- The number with the opposite sign. -/
def negated? : Datum → Option Datum
  | .number x => some (.number x.neg)
  | .infinite negative => some (.infinite !negative)
  | _ => none

/-- An object that is filled: its properties, and what it inherits from. -/
structure Draft where
  own : List (StringValue × Datum)
  parent : Datum

namespace Draft

/-- An object before anything is put into it. -/
def start : Draft :=
  ⟨[], .objectPrototype⟩

/-- The properties with one set: in its place, or at the end if it is new. -/
def putOwn (k : StringValue) (v : Datum) : List (StringValue × Datum) → List (StringValue × Datum)
  | [] => [(k, v)]
  | (l, w) :: rest => if l = k then (k, v) :: rest else (l, w) :: putOwn k v rest

/-- The object with the value under the key put into it.  What is put under the key that sets the
parent is the parent from then on, if it is an object or nothing at all. -/
def put (d : Draft) (key : PropertyKey) (k : StringValue) (v : Datum) : Draft :=
  if key.setsParent then
    match v with
    | .object .. | .array _ | .objectPrototype | .null => { d with parent := v }
    | _ => d
  else { d with own := putOwn k v d.own }

end Draft

end Datum

mutual

/-- What an expression that writes data out comes to. -/
def Expr.datum? : Expr → Option Datum
  | .literal .null => some .null
  | .literal (.bool b) => some (.bool b)
  | .literal (.number x) => some (.ofNumeral x)
  | .literal (.string t) => some (.text t)
  | .unary .minus e => e.datum?.bind Datum.negated?
  | .paren e => e.datum?
  | .array es => (itemData? es).map .array
  | .object ps => (filled? .start ps).map fun d => .object d.own d.parent
  | _ => none

/-- What the items of an array come to. -/
def itemData? : List Expr → Option (List Datum)
  | [] => some []
  | e :: es => do
    let d ← e.datum?
    let ds ← itemData? es
    pure (d :: ds)

/-- The object that the properties make of a draft, one after another. -/
def filled? (d : Datum.Draft) : List Property → Option Datum.Draft
  | [] => some d
  | .value key e :: ps => do
    let k ← key.scriptName?
    let v ← e.datum?
    filled? (d.put key k v) ps
  | _ => none

end

end StorySuite.Script

namespace StorySuite.Json

open Script

/-! ### What data says -/

/-- The number that a numeral says, with its sign. -/
def Numeral.meaning (w : Numeral) : Datum :=
  match w.magnitude with
  | some x => .number (if w.negative then x.neg else x)
  | none => .infinite w.negative

mutual

/-- What a value of data says: an object has exactly its fields as properties, and nothing else
about it is out of the ordinary. -/
def Value.meaning : Value → Datum
  | .null => .null
  | .bool b => .bool b
  | .number n => n.numeral.meaning
  | .string s => .text ⟨s, false⟩
  | .array items => .array (itemMeanings items)
  | .object fields => .object (fieldMeanings fields) .objectPrototype

/-- What items of an array say. -/
def itemMeanings : List Value → List Datum
  | [] => []
  | v :: rest => v.meaning :: itemMeanings rest

/-- What fields of an object say. -/
def fieldMeanings : List (String × Value) → List (StringValue × Datum)
  | [] => []
  | (k, v) :: rest => (⟨k, false⟩, v.meaning) :: fieldMeanings rest

end

mutual

/-- The keys of the objects in a value, at any depth. -/
def Value.keys : Value → List String
  | .array items => itemKeys items
  | .object fields => fieldKeys fields
  | _ => []

/-- The keys in items of an array. -/
def itemKeys : List Value → List String
  | [] => []
  | v :: rest => v.keys ++ itemKeys rest

/-- The keys of fields and in their values. -/
def fieldKeys : List (String × Value) → List String
  | [] => []
  | (k, v) :: rest => k :: v.keys ++ fieldKeys rest

end

mutual

/-- No object in the value has a key twice. -/
def Value.Distinct : Value → Prop
  | .array items => ItemsDistinct items
  | .object fields => (DataMap.keys fields).Nodup ∧ FieldsDistinct fields
  | _ => True

/-- No object in the items has a key twice. -/
def ItemsDistinct : List Value → Prop
  | [] => True
  | v :: rest => v.Distinct ∧ ItemsDistinct rest

/-- No object in the values of the fields has a key twice. -/
def FieldsDistinct : List (String × Value) → Prop
  | [] => True
  | (_, v) :: rest => v.Distinct ∧ FieldsDistinct rest

end

/-- The key under which a written object takes what it inherits from. -/
def parentKey : String :=
  "__proto__"

theorem setsParent_string_iff (k : String) :
    (PropertyKey.string ⟨k, false⟩).setsParent = true ↔ k = parentKey := by
  simp [PropertyKey.setsParent, PropertyKey.scriptName?, parentKey]

/-! ### What expressions come to -/

/-- A new property is put at the end. -/
theorem putOwn_new {k : StringValue} {v : Datum} : ∀ {own : List (StringValue × Datum)},
    k ∉ own.map Prod.fst → Datum.Draft.putOwn k v own = own ++ [(k, v)]
  | [], _ => rfl
  | (l, w) :: rest, h => by
      simp only [List.map_cons, List.mem_cons, not_or] at h
      simp [Datum.Draft.putOwn, Ne.symm h.1, putOwn_new h.2]

theorem datum?_number (n : Number) : n.expr.datum? = some n.numeral.meaning := by
  unfold Number.expr Numeral.meaning
  cases n.numeral.negative <;> cases n.numeral.magnitude <;> rfl

/-- What is said of a value once its expression is evaluated. -/
def ComesTo (v : Value) : Prop :=
  ∃ d, v.expr.datum? = some d ∧ (d = v.meaning ↔ parentKey ∉ v.keys)

/-- A value without objects comes to what it means. -/
theorem comesTo_of_eq {v : Value} (h : v.expr.datum? = some v.meaning) (hkeys : v.keys = []) :
    ComesTo v :=
  ⟨v.meaning, h, by simp [hkeys]⟩

/-- What fields make of an object: new properties for all but the one that sets the parent. -/
def FieldsComeTo (fields : List (String × Value)) : Prop :=
  ∀ d : Datum.Draft, (∀ k ∈ DataMap.keys fields, ⟨k, false⟩ ∉ d.own.map Prod.fst) →
    ∃ more parent, filled? d (fieldProperties fields) = some ⟨d.own ++ more, parent⟩ ∧
      (∀ p ∈ more, p.1 ≠ ⟨parentKey, false⟩) ∧
      (more = fieldMeanings fields ↔ parentKey ∉ fieldKeys fields) ∧
      (parentKey ∉ DataMap.keys fields → parent = d.parent)

theorem fieldsComeTo_nil : FieldsComeTo [] := by
  intro d _
  exact ⟨[], d.parent, by simp [fieldProperties, filled?], by simp,
    by simp [fieldMeanings, fieldKeys], fun _ => rfl⟩

theorem fieldsComeTo_cons {k : String} {v : Value} {rest : List (String × Value)}
    (hdistinct : (DataMap.keys ((k, v) :: rest)).Nodup) (hv : ComesTo v)
    (hrest : FieldsComeTo rest) : FieldsComeTo ((k, v) :: rest) := by
  intro d hfresh
  obtain ⟨u, hu, hmeans⟩ := hv
  obtain ⟨hk, -⟩ := List.nodup_cons.mp hdistinct
  simp only [DataMap.keys, List.map_cons, List.forall_mem_cons] at hfresh
  obtain ⟨hnew, hlater⟩ := hfresh
  have hstep : filled? d (fieldProperties ((k, v) :: rest)) =
      filled? (d.put (.string ⟨k, false⟩) ⟨k, false⟩ u) (fieldProperties rest) := by
    simp [fieldProperties, filled?, PropertyKey.scriptName?, hu]
  rw [hstep]
  by_cases hparent : k = parentKey
  · -- the value goes where the object inherits from, and makes no property
    have hown : (d.put (.string ⟨k, false⟩) ⟨k, false⟩ u).own = d.own := by
      unfold Datum.Draft.put
      rw [if_pos ((setsParent_string_iff k).mpr hparent)]
      split <;> rfl
    obtain ⟨more, parent, hfilled, hothers, -, -⟩ :=
      hrest (d.put (.string ⟨k, false⟩) ⟨k, false⟩ u) (by rw [hown]; exact hlater)
    rw [hown] at hfilled
    refine ⟨more, parent, hfilled, hothers, ⟨fun heq => ?_, fun h => ?_⟩, fun h => ?_⟩
    · exact absurd rfl (hparent ▸ hothers (⟨k, false⟩, v.meaning) (by simp [heq, fieldMeanings]))
    · exact absurd (by simp [fieldKeys, hparent]) h
    · exact absurd (by simp [DataMap.keys, hparent]) h
  · -- the value is put behind the others, under a key that is new
    have hput :
        d.put (.string ⟨k, false⟩) ⟨k, false⟩ u = ⟨d.own ++ [(⟨k, false⟩, u)], d.parent⟩ := by
      unfold Datum.Draft.put
      rw [if_neg (mt (setsParent_string_iff k).mp hparent), putOwn_new hnew]
    rw [hput]
    have hfresh : ∀ l ∈ DataMap.keys rest,
        ⟨l, false⟩ ∉ (d.own ++ [((⟨k, false⟩ : StringValue), u)]).map Prod.fst := by
      intro l hl
      have hne : l ≠ k := fun h => hk (h ▸ hl)
      simpa [hne] using hlater l hl
    obtain ⟨more, parent, hfilled, hothers, hmore, hkept⟩ :=
      hrest ⟨d.own ++ [(⟨k, false⟩, u)], d.parent⟩ hfresh
    refine ⟨(⟨k, false⟩, u) :: more, parent, by simpa using hfilled, ?_, ?_, ?_⟩
    · simpa [hparent] using hothers
    · simp only [fieldMeanings, fieldKeys, List.cons.injEq, Prod.mk.injEq, true_and, hmeans, hmore,
        List.mem_cons, List.mem_append, List.cons_append, not_or, Ne.symm hparent,
        not_false_eq_true]
    · intro h
      exact hkept fun hin => h (by simp [DataMap.keys] at hin ⊢; exact .inr hin)

theorem parentKey_mem_fieldKeys : ∀ {fields : List (String × Value)},
    parentKey ∈ DataMap.keys fields → parentKey ∈ fieldKeys fields
  | (k, v) :: rest, h => by
      simp only [DataMap.keys, List.map_cons, List.mem_cons] at h
      simp only [fieldKeys, List.cons_append, List.mem_cons, List.mem_append]
      rcases h with h | h
      · exact .inl h
      · exact .inr (.inr (parentKey_mem_fieldKeys h))

theorem comesTo_object {fields : List (String × Value)} (hfields : FieldsComeTo fields) :
    ComesTo (.object fields) := by
  obtain ⟨more, parent, hfilled, -, hmore, hkept⟩ := hfields .start (by simp [Datum.Draft.start])
  simp only [Datum.Draft.start, List.nil_append] at hfilled hkept
  refine ⟨.object more parent, by simp [Value.expr, Expr.datum?, Datum.Draft.start, hfilled], ?_⟩
  simp only [Value.meaning, Value.keys, Datum.object.injEq, hmore]
  exact ⟨fun h => h.1, fun h => ⟨h, hkept (mt parentKey_mem_fieldKeys h)⟩⟩

/-- What the items of an array come to. -/
def ItemsComeTo (items : List Value) : Prop :=
  ∃ ds, itemData? (itemExprs items) = some ds ∧
    (ds = itemMeanings items ↔ parentKey ∉ itemKeys items)

theorem itemsComeTo_cons {v : Value} {rest : List Value} (hv : ComesTo v)
    (hrest : ItemsComeTo rest) : ItemsComeTo (v :: rest) := by
  obtain ⟨d, hd, hmeans⟩ := hv
  obtain ⟨ds, hds, hrestMeans⟩ := hrest
  refine ⟨d :: ds, by simp [itemExprs, itemData?, hd, hds], ?_⟩
  simp [itemMeanings, itemKeys, hmeans, hrestMeans, not_or]

theorem comesTo_array {items : List Value} (hitems : ItemsComeTo items) :
    ComesTo (.array items) := by
  obtain ⟨ds, hds, hmeans⟩ := hitems
  refine ⟨.array ds, by simp [Value.expr, Expr.datum?, hds], ?_⟩
  simpa [Value.meaning, Value.keys] using hmeans

mutual

theorem comesTo : ∀ {v : Value}, v.Distinct → ComesTo v
  | .null, _ => comesTo_of_eq rfl rfl
  | .bool _, _ => comesTo_of_eq rfl rfl
  | .number n, _ => comesTo_of_eq (datum?_number n) rfl
  | .string _, _ => comesTo_of_eq rfl rfl
  | .array _, h => comesTo_array (itemsComeTo h)
  | .object _, h => comesTo_object (fieldsComeTo h.1 h.2)

theorem itemsComeTo : ∀ {items : List Value}, ItemsDistinct items → ItemsComeTo items
  | [], _ => ⟨[], rfl, by simp [itemMeanings, itemKeys]⟩
  | _ :: _, h => itemsComeTo_cons (comesTo h.1) (itemsComeTo h.2)

theorem fieldsComeTo : ∀ {fields : List (String × Value)}, (DataMap.keys fields).Nodup →
    FieldsDistinct fields → FieldsComeTo fields
  | [], _, _ => fieldsComeTo_nil
  | (_, _) :: _, hnodup, h =>
    fieldsComeTo_cons hnodup (comesTo h.1) (fieldsComeTo (List.nodup_cons.mp hnodup).2 h.2)

end

/-- **Data means in a program what it says, exactly when no object in it has the key that sets what
an object inherits from.**  The value of its expression is there in any case. -/
theorem datum_eq_meaning_iff {v : Value} (h : v.Distinct) :
    ∃ d, v.expr.datum? = some d ∧ (d = v.meaning ↔ parentKey ∉ v.keys) :=
  comesTo h

/-- Without a property, and inheriting from nothing. -/
example : (Value.object [("__proto__", .null)]).expr.datum? = some (.object [] .null) := rfl

end StorySuite.Json
