import Mathlib.Data.List.Nodup
import Mathlib.Data.List.TakeWhile
import IotCore.Model.JsonCodec

/-! # What `json.dumps` writes is what `json.loads` reads

And what else `json.loads` reads: every text that is JSON but for the constants, unless an integer
in it has too many digits for `int`. -/

namespace IotCore.Json

open JsonText

/-! ## What can be written -/

/-- The text of the float is a number with a fraction or an exponent, and is read as the same
float. -/
structure Interpreter.Reads (F : Interpreter) (q : Rat) : Prop where
  isNumber : isNumber (F.repr q) = true
  notInt : isIntText (F.repr q) = false
  parse : F.parse (F.repr q) = some q

section

variable (F : Interpreter)

mutual

/-- The numbers can be converted to texts and back, and the keys of every `dict` are distinct. -/
def Readable : Json → Prop
  | .int i => F.converts i = true
  | .float q => F.Reads q
  | .arr values => ReadableList values
  | .obj fields => (fields.map Prod.fst).Nodup ∧ ReadableFields fields
  | _ => True

def ReadableList : List Json → Prop
  | [] => True
  | x :: xs => Readable x ∧ ReadableList xs

def ReadableFields : List (String × Json) → Prop
  | [] => True
  | (_, x) :: fields => Readable x ∧ ReadableFields fields

end

end

/-! ## Integers -/

theorem isNumber_of_digits {text : List Char} (hne : text ≠ [])
    (hdigits : ∀ c ∈ text, c.isDigit = true) (hzero : text.head? = some '0' → text = ['0']) :
    isNumber text = true ∧ isNumber ('-' :: text) = true := by
  obtain ⟨c, after, rfl⟩ := List.exists_cons_of_ne_nil hne
  have hc := hdigits c List.mem_cons_self
  have hafter : after.dropWhile Char.isDigit = [] :=
    List.dropWhile_eq_nil_iff.mpr fun d hd => hdigits d (List.mem_cons_of_mem c hd)
  by_cases h0 : c = '0'
  · subst c
    obtain rfl : after = [] := by simpa using hzero rfl
    decide
  · have hminus : c ≠ '-' := by
      rintro rfl
      exact absurd hc (by decide)
    have hdig : digits (c :: after) = some [] := by simp [digits, hc, hafter]
    have hint : integer (c :: after) = some [] := by
      rw [integer.eq_def]
      split
      · rename_i heq
        exact absurd (List.cons.inj heq).1 hminus
      · rename_i heq
        exact absurd (List.cons.inj heq).1 h0
      · rename_i heq
        exact absurd (List.cons.inj heq).1 hminus
      · exact hdig
    have hneg : integer ('-' :: c :: after) = some [] := by
      rw [integer.eq_def]
      split
      · rename_i heq
        exact absurd (List.cons.inj (List.cons.inj heq).2).1 h0
      · rename_i heq
        exact absurd (List.cons.inj heq).1 (by decide)
      · rename_i heq
        rw [← (List.cons.inj heq).2]
        exact hdig
      · rename_i hno
        exact absurd rfl (hno _)
    simp [isNumber, hint, hneg, fraction, exponent]

theorem toDigits_head (n : Nat) :
    (Nat.toDigits 10 n).head? = some '0' → Nat.toDigits 10 n = ['0'] := by
  induction n using Nat.strongRecOn with
  | _ n ih =>
      by_cases h : n < 10
      · rw [Nat.toDigits_of_lt_base h]
        intro hd
        simpa using hd
      · intro hd
        rw [Nat.toDigits_of_base_le (by decide) (by omega)] at hd ⊢
        have hne : Nat.toDigits 10 (n / 10) ≠ [] := Nat.toDigits_ne_nil
        rw [List.head?_append_of_ne_nil _ hne] at hd
        have hzero := ih (n / 10) (by omega) hd
        have hvalue := Nat.ofDigitChars_ten_toDigits (n := n / 10)
        rw [hzero] at hvalue
        have : n / 10 = 0 := hvalue.symm
        omega

theorem isNumber_intText (i : Int) : isNumber (intText i) = true := by
  have hdigits : ∀ n, ∀ c ∈ Nat.toDigits 10 n, c.isDigit = true := fun n c hc =>
    Nat.isDigit_of_mem_toDigits (by decide) (by decide) hc
  cases i with
  | ofNat n =>
      exact (isNumber_of_digits Nat.toDigits_ne_nil (hdigits n) (toDigits_head n)).1
  | negSucc n =>
      exact (isNumber_of_digits Nat.toDigits_ne_nil (hdigits _) (toDigits_head _)).2

theorem isIntText_intText (i : Int) : isIntText (intText i) = true := by
  have hdigits : ∀ n, (Nat.toDigits 10 n).all (fun c => c = '-' || c.isDigit) = true := by
    intro n
    rw [List.all_eq_true]
    intro c hc
    simp [Nat.isDigit_of_mem_toDigits (b := 10) (by decide) (by decide) hc]
  cases i with
  | ofNat n => exact hdigits n
  | negSucc n =>
      rw [isIntText, intText, List.all_cons, hdigits]
      rfl

theorem intOfText_intText (i : Int) : intOfText (intText i) = i := by
  cases i with
  | ofNat n =>
      have hne : (Nat.toDigits 10 n) ≠ [] := Nat.toDigits_ne_nil
      obtain ⟨c, text, htext⟩ := List.exists_cons_of_ne_nil hne
      have hc : c.isDigit = true :=
        Nat.isDigit_of_mem_toDigits (n := n) (by decide) (by decide) (htext ▸ List.mem_cons_self)
      have hminus : c ≠ '-' := by
        rintro rfl
        exact absurd hc (by decide)
      have hvalue := Nat.ofDigitChars_ten_toDigits (n := n)
      rw [htext] at hvalue
      rw [intText, htext, intOfText.eq_def]
      split
      · rename_i heq
        exact absurd (List.cons.inj heq).1 hminus
      · rw [hvalue]
        rfl
  | negSucc n =>
      rw [intText, intOfText, Nat.ofDigitChars_ten_toDigits]
      rfl

/-! ## Dictionaries -/

theorem setItem_new {fields : List (String × Json)} {key : String} (x : Json)
    (h : key ∉ fields.map Prod.fst) : setItem fields key x = fields ++ [(key, x)] := by
  rw [setItem, if_neg h]

/-- Members of different names are a `dict` as they are. -/
theorem dictOf_eq {members : List (String × Json)} (h : (members.map Prod.fst).Nodup) :
    dictOf members = members := by
  have hfold : ∀ (ms fields : List (String × Json)), ((fields ++ ms).map Prod.fst).Nodup →
      ms.foldl (fun fields member => setItem fields member.1 member.2) fields = fields ++ ms := by
    intro ms
    induction ms with
    | nil => simp
    | cons m ms ih =>
        intro fields hnodup
        have hnew : m.1 ∉ fields.map Prod.fst := by
          rw [List.map_append, List.nodup_append] at hnodup
          exact fun hmem => hnodup.2.2 m.1 hmem m.1 (by simp) rfl
        rw [List.foldl_cons, setItem_new m.2 hnew, ih _ (by simpa using hnodup)]
        simp
  exact hfold members [] h

/-! ## Values -/

theorem strOf_strValue (s : String) : strOf (strValue s) = some s.toList := by
  have hchars : ∀ cs : List Char, strOf (Str.ofChars cs) = some cs := by
    intro cs
    induction cs with
    | nil => rfl
    | cons c cs ih =>
        change (strOf (Str.ofChars cs)).map (c :: ·) = _
        rw [ih]
        rfl
  exact hchars s.toList

theorem isConstant_of_isNumber {text : List Char} (h : isNumber text = true) :
    isConstant text = false := by
  rw [Bool.eq_false_iff]
  intro hconstant
  simp only [isConstant, Bool.or_eq_true, decide_eq_true_eq] at hconstant
  obtain (rfl | rfl) | rfl := hconstant
  · exact absurd h (by decide)
  · exact absurd h (by decide)
  · exact absurd h (by decide)

section

variable {F : Interpreter}

theorem floatOfText_repr {q : Rat} (h : F.Reads q) : floatOfText F (F.repr q) = .float q := by
  have hconstant := isConstant_of_isNumber h.isNumber
  have hnan : F.repr q ≠ nanText := by
    intro heq
    simp [heq, isConstant] at hconstant
  simp [floatOfText, hnan, hconstant, h.parse]

mutual

theorem writable_toValue : ∀ j : Json, Readable F j → Writable (toValue F j)
  | .null, _ => trivial
  | .bool _, _ => trivial
  | .int i, _ => .inl (isNumber_intText i)
  | .float _, h => .inl h.isNumber
  | .inf false, _ | .inf true, _ | .nan, _ => .inr rfl
  | .str s, _ => joinPairs_ofChars s.toList
  | .arr xs, h => writable_toValues xs h
  | .obj fields, h => writable_toMembers fields h.2

theorem writable_toValues : ∀ xs : List Json, ReadableList F xs → WritableList (toValues F xs)
  | [], _ => trivial
  | x :: xs, h => ⟨writable_toValue x h.1, writable_toValues xs h.2⟩

theorem writable_toMembers : ∀ fields : List (String × Json), ReadableFields F fields →
    WritableMembers (toMembers F fields)
  | [], _ => trivial
  | (key, x) :: fields, h =>
      ⟨joinPairs_ofChars key.toList, writable_toValue x h.1, writable_toMembers fields h.2⟩

end

mutual

/-- Without NaN and infinities the text is JSON. -/
theorem standard_toValue : ∀ j : Json, Readable F j → j.finite = true → Standard (toValue F j)
  | .null, _, _ | .bool _, _, _ | .str _, _, _ => trivial
  | .int i, _, _ => isNumber_intText i
  | .float _, h, _ => h.isNumber
  | .arr xs, h, hfinite => standard_toValues xs h hfinite
  | .obj fields, h, hfinite => standard_toMembers fields h.2 hfinite

theorem standard_toValues : ∀ xs : List Json, ReadableList F xs → finiteList xs = true →
    StandardList (toValues F xs)
  | [], _, _ => trivial
  | x :: xs, h, hfinite => by
      simp only [finiteList, Bool.and_eq_true] at hfinite
      exact ⟨standard_toValue x h.1 hfinite.1, standard_toValues xs h.2 hfinite.2⟩

theorem standard_toMembers : ∀ fields : List (String × Json), ReadableFields F fields →
    finiteDict fields = true → StandardMembers (toMembers F fields)
  | [], _, _ => trivial
  | (_, x) :: fields, h, hfinite => by
      simp only [finiteDict, Bool.and_eq_true] at hfinite
      exact ⟨standard_toValue x h.1 hfinite.1, standard_toMembers fields h.2 hfinite.2⟩

end

mutual

theorem ofValue_toValue : ∀ j : Json, Readable F j → ofValue F (toValue F j) = some j
  | .null, _ => rfl
  | .bool _, _ => rfl
  | .int i, h => by
      have hconverts : F.converts i = true := h
      simp [toValue, ofValue, isIntText_intText, intOfText_intText, hconverts]
  | .float _, h => by simp [toValue, ofValue, h.notInt, floatOfText_repr h]
  | .inf false, _ | .inf true, _ | .nan, _ => rfl
  | .str s, _ => by simp [toValue, ofValue, strOf_strValue]
  | .arr xs, h => by simp [toValue, ofValue, ofValues_toValues xs h]
  | .obj fields, h => by
      simp [toValue, ofValue, ofMembers_toMembers fields h.2, dictOf_eq h.1]

theorem ofValues_toValues : ∀ xs : List Json, ReadableList F xs →
    ofValues F (toValues F xs) = some xs
  | [], _ => rfl
  | x :: xs, h => by
      simp [toValues, ofValues, ofValue_toValue x h.1, ofValues_toValues xs h.2]

theorem ofMembers_toMembers : ∀ fields : List (String × Json), ReadableFields F fields →
    ofMembers F (toMembers F fields) = some fields
  | [], _ => rfl
  | (key, x) :: fields, h => by
      simp [toMembers, ofMembers, strOf_strValue, ofValue_toValue x h.1,
        ofMembers_toMembers fields h.2]

end

mutual

theorem convertible_of_readable : ∀ j : Json, Readable F j → convertible F j = true
  | .null, _ | .bool _, _ | .float _, _ | .inf _, _ | .nan, _ | .str _, _ => rfl
  | .int _, h => h
  | .arr xs, h => convertibleList_of_readable xs h
  | .obj fields, h => convertibleDict_of_readable fields h.2

theorem convertibleList_of_readable : ∀ xs : List Json, ReadableList F xs →
    convertibleList F xs = true
  | [], _ => rfl
  | x :: xs, h => by
      rw [convertibleList, convertible_of_readable x h.1, convertibleList_of_readable xs h.2]
      rfl

theorem convertibleDict_of_readable : ∀ fields : List (String × Json), ReadableFields F fields →
    convertibleDict F fields = true
  | [], _ => rfl
  | (_, x) :: fields, h => by
      rw [convertibleDict, convertible_of_readable x h.1, convertibleDict_of_readable fields h.2]
      rfl

end

end

/-! ## What JSON can carry -/

section

variable (F : Interpreter)

/-- JSON can carry the value: its floats are finite and are read as the same floats, and its
integers have no more digits than `int` converts. -/
structure Survives (j : Json) : Prop where
  readable : Readable F j
  finite : j.finite = true

theorem survives_arr (values : List Json) :
    Survives F (.arr values) ↔ ∀ x ∈ values, Survives F x := by
  induction values with
  | nil => exact ⟨fun _ => by simp, fun _ => ⟨trivial, rfl⟩⟩
  | cons x values ih =>
      rw [List.forall_mem_cons, ← ih]
      constructor
      · rintro ⟨⟨hx, hvalues⟩, hfinite⟩
        obtain ⟨hxfinite, hfinite⟩ : x.finite = true ∧ finiteList values = true := by
          simpa [finite, finiteList] using hfinite
        exact ⟨⟨hx, hxfinite⟩, hvalues, hfinite⟩
      · rintro ⟨hx, hvalues⟩
        refine ⟨⟨hx.readable, hvalues.readable⟩, ?_⟩
        rw [finite, finiteList, hx.finite]
        exact hvalues.finite

theorem survives_obj (fields : List (String × Json)) :
    Survives F (.obj fields) ↔
      (fields.map Prod.fst).Nodup ∧ ∀ field ∈ fields, Survives F field.2 := by
  induction fields with
  | nil => exact ⟨fun _ => by simp, fun _ => ⟨⟨List.nodup_nil, trivial⟩, rfl⟩⟩
  | cons field fields ih =>
      obtain ⟨key, x⟩ := field
      rw [List.forall_mem_cons, List.map_cons]
      constructor
      · rintro ⟨⟨hnodup, hx, hfields⟩, hfinite⟩
        obtain ⟨hxfinite, hfinite⟩ : x.finite = true ∧ finiteDict fields = true := by
          simpa [finite, finiteDict] using hfinite
        exact ⟨hnodup, ⟨hx, hxfinite⟩, (ih.mp ⟨⟨hnodup.of_cons, hfields⟩, hfinite⟩).2⟩
      · rintro ⟨hnodup, hx, hfields⟩
        have hrest := ih.mpr ⟨hnodup.of_cons, hfields⟩
        refine ⟨⟨hnodup, hx.readable, hrest.readable.2⟩, ?_⟩
        rw [finite, finiteDict, hx.finite]
        exact hrest.finite

end

section

variable {F : Interpreter}

theorem decodes_dumps {j : Json} (h : Survives F j) : Decodes (dumps F j) (toValue F j) :=
  decodes_write (writable_toValue j h.readable) (standard_toValue j h.readable h.finite)

theorem loads_dumps {j : Json} (h : Readable F j) : loads F (dumps F j) = some j := by
  rw [loads, dumps, read_write (writable_toValue j h)]
  exact ofValue_toValue j h

end

/-! ## What can be read -/

mutual

/-- Every surrogate in a string belongs to a pair. -/
def paired : Value → Bool
  | .string s => (strOf s).isSome
  | .array values => pairedList values
  | .object members => pairedMembers members
  | _ => true

def pairedList : List Value → Bool
  | [] => true
  | v :: vs => paired v && pairedList vs

def pairedMembers : List (Str × Value) → Bool
  | [] => true
  | (key, v) :: ms => (strOf key).isSome && (paired v && pairedMembers ms)

end

section

variable (F : Interpreter)

mutual

/-- `int` converts every integer. -/
def fits : Value → Bool
  | .number text => !isIntText text || F.converts (intOfText text)
  | .array values => fitsList values
  | .object members => fitsMembers members
  | _ => true

def fitsList : List Value → Bool
  | [] => true
  | v :: vs => fits v && fitsList vs

def fitsMembers : List (Str × Value) → Bool
  | [] => true
  | (_, v) :: ms => fits v && fitsMembers ms

end

mutual

theorem isSome_ofValue : ∀ v : Value, (ofValue F v).isSome = (paired v && fits F v)
  | .null | .bool _ => rfl
  | .number text => by
      by_cases hint : isIntText text = true
      · cases hconverts : F.converts (intOfText text) <;>
          simp [ofValue, paired, fits, hint, hconverts]
      · simp [ofValue, paired, fits, hint]
  | .string s => by simp [ofValue, paired, fits]
  | .array values => by simp [ofValue, paired, fits, isSome_ofValues values]
  | .object members => by simp [ofValue, paired, fits, isSome_ofMembers members]

theorem isSome_ofValues : ∀ vs : List Value,
    (ofValues F vs).isSome = (pairedList vs && fitsList F vs)
  | [] => rfl
  | v :: vs => by
      have hv := isSome_ofValue v
      have hvs := isSome_ofValues vs
      cases hx : ofValue F v <;> cases hxs : ofValues F vs <;>
        simp_all [ofValues, pairedList, fitsList]

theorem isSome_ofMembers : ∀ ms : List (Str × Value),
    (ofMembers F ms).isSome = (pairedMembers ms && fitsMembers F ms)
  | [] => rfl
  | (key, v) :: ms => by
      have hv := isSome_ofValue v
      have hms := isSome_ofMembers ms
      cases hkey : strOf key <;> cases hx : ofValue F v <;> cases hfields : ofMembers F ms <;>
        simp_all [ofMembers, pairedMembers, fitsMembers]

end

/-- The bytes have no surrogate without its pair, neither in a string nor in a key. -/
def PairedUtf8 (bytes : List UInt8) : Prop := ∀ v, ReadsUtf8 bytes v → paired v = true

/-- The bytes stand for the document. -/
def Document (bytes : List UInt8) (document : Json) : Prop :=
  ∃ v, ReadsUtf8 bytes v ∧ ofValue F v = some document

section

variable {F : Interpreter} {bytes : List UInt8} {v : Value} {x y : Json}

theorem document_dumps (h : Readable F x) : Document F (encodeUtf8 (dumps F x)) x := by
  have hread := read_write (writable_toValue x h)
  rw [read_eq_some_iff] at hread
  exact ⟨_, readsUtf8_encodeUtf8.mpr hread, ofValue_toValue x h⟩

theorem pairedUtf8_dumps (h : Readable F x) : PairedUtf8 (encodeUtf8 (dumps F x)) := by
  intro v hv
  obtain ⟨w, hw, hvalue⟩ := document_dumps h
  obtain rfl := hv.unique hw
  have hsome := isSome_ofValue F v
  rw [hvalue] at hsome
  exact (Bool.and_eq_true_iff.mp hsome.symm).1

theorem Document.unique (hx : Document F bytes x) (hy : Document F bytes y) : x = y := by
  obtain ⟨v, hv, hx⟩ := hx
  obtain ⟨w, hw, hy⟩ := hy
  obtain rfl := hv.unique hw
  rw [hx] at hy
  exact Option.some.inj hy

theorem Document.fits (hx : Document F bytes x) (hv : ReadsUtf8 bytes v) :
    Json.fits F v = true := by
  obtain ⟨w, hw, hx⟩ := hx
  obtain rfl := hv.unique hw
  have hsome := isSome_ofValue F v
  rw [hx] at hsome
  exact (Bool.and_eq_true_iff.mp hsome.symm).2

theorem exists_document (hpaired : PairedUtf8 bytes) (hv : ReadsUtf8 bytes v)
    (hfits : Json.fits F v = true) : ∃ document, Document F bytes document := by
  have hsome := isSome_ofValue F v
  rw [hpaired v hv, hfits] at hsome
  obtain ⟨document, hdocument⟩ := Option.isSome_iff_exists.mp hsome
  exact ⟨document, v, hv, hdocument⟩

theorem forall_mem_setItem {P : Json → Prop} {fields : List (String × Json)} {key : String}
    (h : ∀ field ∈ fields, P field.2) (hx : P x) : ∀ field ∈ setItem fields key x, P field.2 := by
  rw [setItem]
  split
  · intro field hfield
    obtain ⟨old, hold, rfl⟩ := List.mem_map.mp hfield
    split
    · exact hx
    · exact h old hold
  · intro field hfield
    rcases List.mem_append.mp hfield with hold | hnew
    · exact h field hold
    · rw [List.mem_singleton.mp hnew]
      exact hx

theorem forall_mem_dictOf {P : Json → Prop} {members : List (String × Json)}
    (h : ∀ member ∈ members, P member.2) : ∀ field ∈ dictOf members, P field.2 := by
  have hfold : ∀ (ms fields : List (String × Json)), (∀ field ∈ fields, P field.2) →
      (∀ m ∈ ms, P m.2) → ∀ field ∈
        ms.foldl (fun fields member => setItem fields member.1 member.2) fields, P field.2 := by
    intro ms
    induction ms with
    | nil => exact fun fields hfields _ => hfields
    | cons m ms ih =>
        intro fields hfields hms
        rw [List.forall_mem_cons] at hms
        exact ih _ (forall_mem_setItem hfields hms.1) hms.2
  exact hfold members [] (by simp) h

theorem convertibleDict_iff (fields : List (String × Json)) :
    convertibleDict F fields = true ↔ ∀ field ∈ fields, convertible F field.2 = true := by
  induction fields with
  | nil => simp [convertibleDict]
  | cons field fields ih => simp [convertibleDict, ih]

mutual

/-- What was read from a text can be written again. -/
theorem convertible_of_ofValue : ∀ (v : Value) (j : Json), ofValue F v = some j →
    convertible F j = true
  | .null, _, h | .bool _, _, h => by
      cases h
      rfl
  | .number text, _, h => by
      rw [ofValue] at h
      split at h
      · rw [Option.ite_none_right_eq_some] at h
        obtain ⟨hconverts, h⟩ := h
        cases h
        exact hconverts
      · cases h
        rw [floatOfText]
        split
        · rfl
        · split
          · rfl
          · split <;> rfl
  | .string s, _, h => by
      obtain ⟨cs, _, rfl⟩ := Option.map_eq_some_iff.mp h
      rfl
  | .array values, _, h => by
      obtain ⟨xs, hxs, rfl⟩ := Option.map_eq_some_iff.mp h
      exact convertible_of_ofValues values xs hxs
  | .object members, _, h => by
      obtain ⟨fields, hfields, rfl⟩ := Option.map_eq_some_iff.mp h
      have hmembers := convertible_of_ofMembers members fields hfields
      rw [convertible, convertibleDict_iff]
      exact forall_mem_dictOf (P := fun x => convertible F x = true) hmembers

theorem convertible_of_ofValues : ∀ (vs : List Value) (xs : List Json), ofValues F vs = some xs →
    convertibleList F xs = true
  | [], _, h => by
      cases h
      rfl
  | v :: vs, _, h => by
      obtain ⟨x, hx, h⟩ := Option.bind_eq_some_iff.mp h
      obtain ⟨xs, hxs, h⟩ := Option.bind_eq_some_iff.mp h
      cases h
      rw [convertibleList, convertible_of_ofValue v x hx, convertible_of_ofValues vs xs hxs]
      rfl

theorem convertible_of_ofMembers : ∀ (ms : List (Str × Value)) (fields : List (String × Json)),
    ofMembers F ms = some fields → ∀ field ∈ fields, convertible F field.2 = true
  | [], _, h => by
      cases h
      simp
  | (key, v) :: ms, _, h => by
      obtain ⟨cs, _, h⟩ := Option.bind_eq_some_iff.mp h
      obtain ⟨x, hx, h⟩ := Option.bind_eq_some_iff.mp h
      obtain ⟨fields, hfields, h⟩ := Option.bind_eq_some_iff.mp h
      cases h
      exact List.forall_mem_cons.mpr
        ⟨convertible_of_ofValue v x hx, convertible_of_ofMembers ms fields hfields⟩

end

theorem Document.convertible (h : Document F bytes x) : Json.convertible F x = true := by
  obtain ⟨v, _, hx⟩ := h
  exact convertible_of_ofValue v x hx

/-- `payload.decode()` and `json.loads`. -/
theorem loads_utf8 :
    (∃ text, bytes.toByteArray.utf8Decode? = some text ∧ loads F text.toList = some x) ↔
      Document F bytes x := by
  simp only [Document, ReadsUtf8, loads, Option.bind_eq_some_iff, read_eq_some_iff]
  constructor
  · rintro ⟨text, htext, v, hv, hdocument⟩
    exact ⟨v, ⟨text.toList, htext, hv⟩, hdocument⟩
  · rintro ⟨v, ⟨text, htext, hv⟩, hdocument⟩
    exact ⟨text.toArray, htext, v, hv, hdocument⟩

end

end

end IotCore.Json
