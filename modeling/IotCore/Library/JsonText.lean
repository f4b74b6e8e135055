import Mathlib.Logic.Basic
import Mathlib.Tactic.SplitIfs

/-! # JSON texts

The grammar of RFC 8259 and the values that texts stand for. An escape in a string may name a
surrogate that belongs to no pair, so the characters of a string are code points. The members
of an object are all there, in their order, and a number is the text it is written as. Many
readers also take `NaN`, `Infinity` and `-Infinity` for numbers; a text without them is JSON. -/

namespace IotCore.JsonText

/-! ## Values -/

inductive CodePoint where
  | char (c : Char)
  /-- U+D800 and the 2047 after it -/
  | surrogate (n : Fin 0x800)
  deriving DecidableEq, Repr

abbrev Str := List CodePoint

inductive Value where
  | null
  | bool (b : Bool)
  | number (text : List Char)
  | string (s : Str)
  | array (values : List Value)
  | object (members : List (Str × Value))

def Str.ofChars (cs : List Char) : Str := cs.map .char

/-! ## Strings -/

def quote : Char := '\x22'

def backslash : Char := '\x5c'

/-- The characters that stand for themselves. -/
def Unescaped (c : Char) : Prop := c ≠ quote ∧ c ≠ backslash ∧ 0x20 ≤ c.toNat

instance (c : Char) : Decidable (Unescaped c) := inferInstanceAs (Decidable (_ ∧ _ ∧ _))

def hexValue (c : Char) : Option Nat :=
  if c.isDigit then some (c.toNat - 48)
  else if 'a' ≤ c ∧ c ≤ 'f' then some (c.toNat - 87)
  else if 'A' ≤ c ∧ c ≤ 'F' then some (c.toNat - 55)
  else none

def codeUnit (n : Nat) : CodePoint :=
  if h : n - 0xD800 < 0x800 ∧ 0xD800 ≤ n then .surrogate ⟨n - 0xD800, h.1⟩ else .char (Char.ofNat n)

/-- The four digits of an escape with `u`. -/
def hexEscape (a b c d : Char) : Option CodePoint := do
  return codeUnit
    ((((← hexValue a) * 16 + (← hexValue b)) * 16 + (← hexValue c)) * 16 + (← hexValue d))

/-- The escapes of one character. -/
def shortEscape (c : Char) : Option CodePoint :=
  if c = quote then some (.char quote)
  else if c = backslash then some (.char backslash)
  else
    match c with
    | '/' => some (.char '/')
    | 'b' => some (.char '\x08')
    | 'f' => some (.char '\x0c')
    | 'n' => some (.char '\n')
    | 'r' => some (.char '\r')
    | 't' => some (.char '\t')
    | _ => none

/-- A string after its first quotation mark, up to the closing one, and what follows it. -/
def scan : List Char → Option (Str × List Char)
  | [] => none
  | c :: input =>
      if c = quote then some ([], input)
      else if c = backslash then
        match input with
        | 'u' :: x :: y :: z :: w :: input =>
            (hexEscape x y z w).bind fun e => (scan input).map fun (s, rest) => (e :: s, rest)
        | x :: input =>
            (shortEscape x).bind fun e => (scan input).map fun (s, rest) => (e :: s, rest)
        | [] => none
      else if Unescaped c then (scan input).map fun (s, rest) => (.char c :: s, rest)
      else none

/-- Two surrogates that are a pair are one character. -/
def joinPairs : Str → Str
  | .surrogate h :: .surrogate l :: s =>
      if h.val < 0x400 ∧ 0x400 ≤ l.val then
        .char (Char.ofNat (0x10000 + h.val * 0x400 + (l.val - 0x400))) :: joinPairs s
      else .surrogate h :: joinPairs (.surrogate l :: s)
  | c :: s => c :: joinPairs s
  | [] => []

theorem Str.ofChars_injective : Function.Injective Str.ofChars := by
  intro cs ds h
  exact (List.map_inj_right fun _ _ => CodePoint.char.inj).mp h

@[simp] theorem scan_quote (rest : List Char) : scan (quote :: rest) = some ([], rest) := by
  rw [scan.eq_def]
  simp

theorem scan_unescaped {c : Char} (h : Unescaped c) (input : List Char) :
    scan (c :: input) = (scan input).map fun (s, rest) => (.char c :: s, rest) := by
  rw [scan.eq_def]
  simp [h, h.1, h.2.1]

/-- Characters that stand for themselves are read as they are. -/
theorem scan_ofChars {raw : List Char} (h : ∀ c ∈ raw, Unescaped c) (rest : List Char) :
    scan (raw ++ quote :: rest) = some (Str.ofChars raw, rest) := by
  induction raw with
  | nil => simp [Str.ofChars]
  | cons c raw ih =>
      have hraw := ih fun d hd => h d (List.mem_cons_of_mem c hd)
      rw [List.cons_append, scan_unescaped (h c List.mem_cons_self), hraw]
      rfl

theorem eq_of_map_cons {o : Option (Str × List Char)} {e : CodePoint} {s : Str} {rest : List Char}
    (h : (o.map fun (s, rest) => (e :: s, rest)) = some (s, rest)) :
    ∃ t, s = e :: t ∧ o = some (t, rest) := by
  obtain ⟨⟨t, rest'⟩, rfl, heq⟩ := Option.map_eq_some_iff.mp h
  cases heq
  exact ⟨t, rfl, rfl⟩

theorem scan_length {input : List Char} {s : Str} {rest : List Char}
    (h : scan input = some (s, rest)) : s.length + rest.length < input.length := by
  fun_induction scan input generalizing s rest with
  | case1 => cases h
  | case2 input =>
      cases h
      simp
  | case3 x y z w input hq ih | case4 x input hx hq ih =>
      obtain ⟨e, _, h⟩ := Option.bind_eq_some_iff.mp h
      obtain ⟨t, rfl, ht⟩ := eq_of_map_cons h
      have hlt := ih ht
      simp only [List.length_cons]
      omega
  | case5 => cases h
  | case6 c input _ _ hc ih =>
      obtain ⟨t, rfl, ht⟩ := eq_of_map_cons h
      have hlt := ih ht
      simp only [List.length_cons]
      omega
  | case7 => cases h

/-- What is read is either as it was written, or shorter than that: an escape is longer than
the code point it names. -/
theorem scan_cases {input : List Char} {s : Str} {rest : List Char}
    (h : scan input = some (s, rest)) :
    (∃ raw, input = raw ++ quote :: rest ∧ s = Str.ofChars raw ∧ ∀ c ∈ raw, Unescaped c) ∨
      s.length + rest.length + 1 < input.length := by
  fun_induction scan input generalizing s rest with
  | case1 => cases h
  | case2 input =>
      cases h
      exact .inl ⟨[], rfl, rfl, by simp⟩
  | case3 x y z w input hq ih | case4 x input hx hq ih =>
      obtain ⟨e, _, h⟩ := Option.bind_eq_some_iff.mp h
      obtain ⟨t, rfl, ht⟩ := eq_of_map_cons h
      have hlt := scan_length ht
      right
      simp only [List.length_cons]
      omega
  | case5 => cases h
  | case6 c input _ _ hc ih =>
      obtain ⟨t, rfl, ht⟩ := eq_of_map_cons h
      rcases ih ht with ⟨raw, rfl, rfl, hraw⟩ | hlt
      · exact .inl ⟨c :: raw, rfl, rfl, List.forall_mem_cons.mpr ⟨hc, hraw⟩⟩
      · right
        simp only [List.length_cons]
        omega
  | case7 => cases h

theorem joinPairs_length_le (s : Str) : (joinPairs s).length ≤ s.length := by
  fun_induction joinPairs s with
  | case1 h l s hpair ih =>
      simp only [List.length_cons]
      omega
  | case2 h l s hpair ih =>
      simp only [List.length_cons] at ih ⊢
      omega
  | case3 c s hc ih =>
      simp only [List.length_cons]
      omega
  | case4 => simp

@[simp] theorem joinPairs_ofChars (cs : List Char) : joinPairs (Str.ofChars cs) = Str.ofChars cs := by
  induction cs with
  | nil => rfl
  | cons c cs ih => simpa [Str.ofChars, joinPairs] using ih

/-! ## Tokens -/

def isSpace (c : Char) : Bool := c = ' ' || c = '\t' || c = '\n' || c = '\r'

def skip (input : List Char) : List Char := input.dropWhile isSpace

/-- What is left after a block of digits, if there is one. -/
def digits (input : List Char) : Option (List Char) :=
  match input with
  | c :: input => if c.isDigit then some (input.dropWhile Char.isDigit) else none
  | [] => none

def integer (input : List Char) : Option (List Char) :=
  match input with
  | '-' :: '0' :: input => some input
  | '0' :: input => some input
  | '-' :: input => digits input
  | input => digits input

def fraction (input : List Char) : Option (List Char) :=
  match input with
  | '.' :: input => digits input
  | input => some input

def exponent (input : List Char) : Option (List Char) :=
  match input with
  | [] => some []
  | c :: input =>
      if c = 'e' ∨ c = 'E' then
        match input with
        | '+' :: input => digits input
        | '-' :: input => digits input
        | input => digits input
      else none

def isNumber (text : List Char) : Bool :=
  (((integer text).bind fraction).bind exponent) = some []

def isNumberChar (c : Char) : Bool :=
  c.isDigit || c = '-' || c = '+' || c = '.' || c = 'e' || c = 'E'

def nanText : List Char := ['N', 'a', 'N']

def infinityText : List Char := ['I', 'n', 'f', 'i', 'n', 'i', 't', 'y']

/-- A spelling of a number that is not JSON. -/
def isConstant (text : List Char) : Bool :=
  text = nanText || text = infinityText || text = '-' :: infinityText

inductive Token where
  | openObject
  | closeObject
  | openArray
  | closeArray
  | colon
  | comma
  | scalar (v : Value)

def structural (c : Char) : Option Token :=
  if c = '\x7b' then some .openObject
  else if c = '\x7d' then some .closeObject
  else if c = '[' then some .openArray
  else if c = ']' then some .closeArray
  else if c = ':' then some .colon
  else if c = ',' then some .comma
  else none

def keyword (input : List Char) : Option (Token × List Char) :=
  match input with
  | 'n' :: 'u' :: 'l' :: 'l' :: rest => some (.scalar .null, rest)
  | 't' :: 'r' :: 'u' :: 'e' :: rest => some (.scalar (.bool true), rest)
  | 'f' :: 'a' :: 'l' :: 's' :: 'e' :: rest => some (.scalar (.bool false), rest)
  | 'N' :: 'a' :: 'N' :: rest => some (.scalar (.number nanText), rest)
  | 'I' :: 'n' :: 'f' :: 'i' :: 'n' :: 'i' :: 't' :: 'y' :: rest =>
      some (.scalar (.number infinityText), rest)
  | '-' :: 'I' :: 'n' :: 'f' :: 'i' :: 'n' :: 'i' :: 't' :: 'y' :: rest =>
      some (.scalar (.number ('-' :: infinityText)), rest)
  | _ => none

/-- The first token after white space, and what follows it. -/
def token (input : List Char) : Option (Token × List Char) :=
  match skip input with
  | [] => none
  | c :: rest =>
      if c = quote then (scan rest).map fun (s, rest) => (.scalar (.string (joinPairs s)), rest)
      else
        match structural c with
        | some t => some (t, rest)
        | none =>
            if c = '-' ∨ c.isDigit then
              let text := (c :: rest).takeWhile isNumberChar
              if isNumber text then
                some (.scalar (.number text), (c :: rest).dropWhile isNumberChar)
              else keyword (c :: rest)
            else keyword (c :: rest)

@[simp] theorem token_quote (rest : List Char) :
    token (quote :: rest) =
      (scan rest).map fun (s, rest) => (.scalar (.string (joinPairs s)), rest) := rfl

theorem token_space {c : Char} (h : isSpace c) (input : List Char) :
    token (c :: input) = token input := by
  simp [token, skip, h]

theorem token_structural {c : Char} {t : Token} (h : structural c = some t) (rest : List Char) :
    token (c :: rest) = some (t, rest) := by
  have hc : isSpace c = false ∧ c ≠ quote := by
    simp only [structural] at h
    split_ifs at h <;> subst c <;> decide
  simp [token, skip, hc, h]

theorem token_openObject (rest : List Char) : token ('\x7b' :: rest) = some (.openObject, rest) :=
  token_structural rfl rest

theorem token_closeObject (rest : List Char) :
    token ('\x7d' :: rest) = some (.closeObject, rest) :=
  token_structural rfl rest

theorem token_colon (rest : List Char) : token (':' :: rest) = some (.colon, rest) :=
  token_structural rfl rest

theorem token_comma (rest : List Char) : token (',' :: rest) = some (.comma, rest) :=
  token_structural rfl rest

/-- A string that nothing in it escapes. -/
theorem token_string {raw : List Char} (h : ∀ c ∈ raw, Unescaped c) (rest : List Char) :
    token (quote :: (raw ++ quote :: rest)) = some (.scalar (.string (Str.ofChars raw)), rest) := by
  simp [scan_ofChars h]

/-! ## Texts -/

/-- A value, or what is between the brackets of an array or of an object that is not empty. -/
inductive Item where
  | value (v : Value)
  | elements (values : List Value)
  | members (members : List (Str × Value))

/-- An item is at the front of a text, the second text is what follows it. The closing bracket
belongs to the elements and to the members. -/
inductive Parses : List Char → Item → List Char → Prop where
  | scalar {i v r} (h : token i = some (.scalar v, r)) : Parses i (.value v) r
  | emptyArray {i j r} (h : token i = some (.openArray, j)) (hc : token j = some (.closeArray, r)) :
      Parses i (.value (.array [])) r
  | array {i j vs r} (h : token i = some (.openArray, j)) (hvs : Parses j (.elements vs) r) :
      Parses i (.value (.array vs)) r
  | emptyObject {i j r} (h : token i = some (.openObject, j))
      (hc : token j = some (.closeObject, r)) : Parses i (.value (.object [])) r
  | object {i j ms r} (h : token i = some (.openObject, j)) (hms : Parses j (.members ms) r) :
      Parses i (.value (.object ms)) r
  | lastElement {i v j r} (hv : Parses i (.value v) j) (hc : token j = some (.closeArray, r)) :
      Parses i (.elements [v]) r
  | element {i v j k vs r} (hv : Parses i (.value v) j) (hc : token j = some (.comma, k))
      (hvs : Parses k (.elements vs) r) : Parses i (.elements (v :: vs)) r
  | lastMember {i key j k v l r} (hkey : token i = some (.scalar (.string key), j))
      (hcolon : token j = some (.colon, k)) (hv : Parses k (.value v) l)
      (hc : token l = some (.closeObject, r)) : Parses i (.members [(key, v)]) r
  | member {i key j k v l m ms r} (hkey : token i = some (.scalar (.string key), j))
      (hcolon : token j = some (.colon, k)) (hv : Parses k (.value v) l)
      (hc : token l = some (.comma, m)) (hms : Parses m (.members ms) r) :
      Parses i (.members ((key, v) :: ms)) r

/-- The text stands for the value, possibly with numbers that are not JSON. -/
def Reads (text : List Char) (v : Value) : Prop :=
  ∃ rest, Parses text (.value v) rest ∧ skip rest = []

mutual

/-- Every number is spelled as the grammar wants it. -/
def Standard : Value → Prop
  | .number text => isNumber text = true
  | .array values => StandardList values
  | .object members => StandardMembers members
  | _ => True

def StandardList : List Value → Prop
  | [] => True
  | v :: vs => Standard v ∧ StandardList vs

def StandardMembers : List (Str × Value) → Prop
  | [] => True
  | (_, v) :: ms => Standard v ∧ StandardMembers ms

end

/-- The text is a JSON text that stands for the value. -/
def Decodes (text : List Char) (v : Value) : Prop := Reads text v ∧ Standard v

def encodeUtf8 (text : List Char) : List UInt8 := text.flatMap String.utf8EncodeChar

/-- A text is exchanged as UTF-8. -/
def ReadsUtf8 (bytes : List UInt8) (v : Value) : Prop :=
  ∃ text : List Char, bytes.toByteArray.utf8Decode? = some text.toArray ∧ Reads text v

def DecodesUtf8 (bytes : List UInt8) (v : Value) : Prop :=
  ∃ text : List Char, bytes.toByteArray.utf8Decode? = some text.toArray ∧ Decodes text v

/-! ## A text stands for one value -/

inductive Kind where
  | value
  | elements
  | members

def Item.kind : Item → Kind
  | .value _ => .value
  | .elements _ => .elements
  | .members _ => .members

/-- No item starts with a closing bracket. -/
theorem Parses.first {i r : List Char} {x : Item} (h : Parses i x r) :
    ∃ t j, token i = some (t, j) ∧ t ≠ .closeArray ∧ t ≠ .closeObject := by
  induction h with
  | scalar h => exact ⟨_, _, h, by simp, by simp⟩
  | emptyArray h _ | array h _ _ => exact ⟨_, _, h, by simp, by simp⟩
  | emptyObject h _ | object h _ _ => exact ⟨_, _, h, by simp, by simp⟩
  | lastElement _ _ ih => exact ih
  | element _ _ _ ih _ => exact ih
  | lastMember hkey _ _ _ _ | member hkey _ _ _ _ _ _ => exact ⟨_, _, hkey, by simp, by simp⟩

theorem Parses.not_closeArray {i r r' : List Char} {x : Item} (h : Parses i x r)
    (hc : token i = some (.closeArray, r')) : False := by
  obtain ⟨t, j, ht, harray, _⟩ := h.first
  rw [hc] at ht
  cases ht
  exact harray rfl

theorem Parses.not_closeObject {i r r' : List Char} {x : Item} (h : Parses i x r)
    (hc : token i = some (.closeObject, r')) : False := by
  obtain ⟨t, j, ht, _, hobject⟩ := h.first
  rw [hc] at ht
  cases ht
  exact hobject rfl

/-! ### What an item starts with decides how it goes on -/

section Inversion

variable {i j r : List Char}

theorem Parses.scalar_inv {v w : Value} (hw : Parses i (.value w) r)
    (h : token i = some (.scalar v, j)) : v = w ∧ j = r := by
  cases hw with
  | scalar h' =>
      cases h.symm.trans h'
      exact ⟨rfl, rfl⟩
  | emptyArray h' _ | array h' _ | emptyObject h' _ | object h' _ => cases h.symm.trans h'

theorem Parses.array_inv {w : Value} (hw : Parses i (.value w) r)
    (h : token i = some (.openArray, j)) :
    w = .array [] ∧ token j = some (.closeArray, r) ∨
      ∃ vs, w = .array vs ∧ Parses j (.elements vs) r := by
  cases hw with
  | emptyArray h' hc =>
      cases h.symm.trans h'
      exact .inl ⟨rfl, hc⟩
  | array h' hvs =>
      cases h.symm.trans h'
      exact .inr ⟨_, rfl, hvs⟩
  | scalar h' | emptyObject h' _ | object h' _ => cases h.symm.trans h'

theorem Parses.object_inv {w : Value} (hw : Parses i (.value w) r)
    (h : token i = some (.openObject, j)) :
    w = .object [] ∧ token j = some (.closeObject, r) ∨
      ∃ ms, w = .object ms ∧ Parses j (.members ms) r := by
  cases hw with
  | emptyObject h' hc =>
      cases h.symm.trans h'
      exact .inl ⟨rfl, hc⟩
  | object h' hms =>
      cases h.symm.trans h'
      exact .inr ⟨_, rfl, hms⟩
  | scalar h' | emptyArray h' _ | array h' _ => cases h.symm.trans h'

theorem Parses.elements_inv {vs : List Value} (h : Parses i (.elements vs) r) :
    ∃ v j, Parses i (.value v) j ∧
      (vs = [v] ∧ token j = some (.closeArray, r) ∨
        ∃ k ws, vs = v :: ws ∧ token j = some (.comma, k) ∧ Parses k (.elements ws) r) := by
  cases h with
  | lastElement hv hc => exact ⟨_, _, hv, .inl ⟨rfl, hc⟩⟩
  | element hv hc hvs => exact ⟨_, _, hv, .inr ⟨_, _, rfl, hc, hvs⟩⟩

theorem Parses.members_inv {ms : List (Str × Value)} (h : Parses i (.members ms) r) :
    ∃ key v j k l, token i = some (.scalar (.string key), j) ∧ token j = some (.colon, k) ∧
      Parses k (.value v) l ∧
      (ms = [(key, v)] ∧ token l = some (.closeObject, r) ∨
        ∃ m ns, ms = (key, v) :: ns ∧ token l = some (.comma, m) ∧ Parses m (.members ns) r) := by
  cases h with
  | lastMember hkey hcolon hv hc => exact ⟨_, _, _, _, _, hkey, hcolon, hv, .inl ⟨rfl, hc⟩⟩
  | member hkey hcolon hv hc hms =>
      exact ⟨_, _, _, _, _, hkey, hcolon, hv, .inr ⟨_, _, rfl, hc, hms⟩⟩

end Inversion

/-- At the front of a text there is one item of each kind, and it ends in one place. -/
theorem Parses.unique {i r r' : List Char} {x y : Item} (hx : Parses i x r) (hy : Parses i y r')
    (hkind : x.kind = y.kind) : x = y ∧ r = r' := by
  induction hx generalizing y r' with
  | scalar h =>
      cases y with
      | value w =>
          obtain ⟨rfl, rfl⟩ := hy.scalar_inv h
          exact ⟨rfl, rfl⟩
      | _ => cases hkind
  | emptyArray h hc =>
      cases y with
      | value w =>
          rcases hy.array_inv h with ⟨rfl, hc'⟩ | ⟨vs, rfl, hvs⟩
          · cases hc.symm.trans hc'
            exact ⟨rfl, rfl⟩
          · exact (hvs.not_closeArray hc).elim
      | _ => cases hkind
  | array h hvs ih =>
      cases y with
      | value w =>
          rcases hy.array_inv h with ⟨rfl, hc⟩ | ⟨vs, rfl, hvs'⟩
          · exact (hvs.not_closeArray hc).elim
          · obtain ⟨heq, rfl⟩ := ih hvs' rfl
            cases heq
            exact ⟨rfl, rfl⟩
      | _ => cases hkind
  | emptyObject h hc =>
      cases y with
      | value w =>
          rcases hy.object_inv h with ⟨rfl, hc'⟩ | ⟨ms, rfl, hms⟩
          · cases hc.symm.trans hc'
            exact ⟨rfl, rfl⟩
          · exact (hms.not_closeObject hc).elim
      | _ => cases hkind
  | object h hms ih =>
      cases y with
      | value w =>
          rcases hy.object_inv h with ⟨rfl, hc⟩ | ⟨ms, rfl, hms'⟩
          · exact (hms.not_closeObject hc).elim
          · obtain ⟨heq, rfl⟩ := ih hms' rfl
            cases heq
            exact ⟨rfl, rfl⟩
      | _ => cases hkind
  | lastElement hv hc ih =>
      cases y with
      | elements ws =>
          obtain ⟨w, j, hw, hws⟩ := hy.elements_inv
          obtain ⟨heq, rfl⟩ := ih hw rfl
          cases heq
          rcases hws with ⟨rfl, hc'⟩ | ⟨k, ws', rfl, hcomma, _⟩
          · cases hc.symm.trans hc'
            exact ⟨rfl, rfl⟩
          · cases hc.symm.trans hcomma
      | _ => cases hkind
  | element hv hc hvs ihv ihvs =>
      cases y with
      | elements ws =>
          obtain ⟨w, j, hw, hws⟩ := hy.elements_inv
          obtain ⟨heq, rfl⟩ := ihv hw rfl
          cases heq
          rcases hws with ⟨rfl, hc'⟩ | ⟨k, ws', rfl, hcomma, hws'⟩
          · cases hc.symm.trans hc'
          · cases hc.symm.trans hcomma
            obtain ⟨heq, rfl⟩ := ihvs hws' rfl
            cases heq
            exact ⟨rfl, rfl⟩
      | _ => cases hkind
  | lastMember hkey hcolon hv hc ih =>
      cases y with
      | members ns =>
          obtain ⟨key, w, j, k, l, hkey', hcolon', hw, hns⟩ := hy.members_inv
          cases hkey.symm.trans hkey'
          cases hcolon.symm.trans hcolon'
          obtain ⟨heq, rfl⟩ := ih hw rfl
          cases heq
          rcases hns with ⟨rfl, hc'⟩ | ⟨m, ns', rfl, hcomma, _⟩
          · cases hc.symm.trans hc'
            exact ⟨rfl, rfl⟩
          · cases hc.symm.trans hcomma
      | _ => cases hkind
  | member hkey hcolon hv hc hms ihv ihms =>
      cases y with
      | members ns =>
          obtain ⟨key, w, j, k, l, hkey', hcolon', hw, hns⟩ := hy.members_inv
          cases hkey.symm.trans hkey'
          cases hcolon.symm.trans hcolon'
          obtain ⟨heq, rfl⟩ := ihv hw rfl
          cases heq
          rcases hns with ⟨rfl, hc'⟩ | ⟨m, ns', rfl, hcomma, hns'⟩
          · cases hc.symm.trans hc'
          · cases hc.symm.trans hcomma
            obtain ⟨heq, rfl⟩ := ihms hns' rfl
            cases heq
            exact ⟨rfl, rfl⟩
      | _ => cases hkind

theorem Reads.unique {text : List Char} {v w : Value} (hv : Reads text v) (hw : Reads text w) :
    v = w := by
  obtain ⟨r, hr, _⟩ := hv
  obtain ⟨r', hr', _⟩ := hw
  cases (hr.unique hr' rfl).1
  rfl

theorem Decodes.unique {text : List Char} {v w : Value} (hv : Decodes text v)
    (hw : Decodes text w) : v = w :=
  hv.1.unique hw.1

/-! ## UTF-8 -/

theorem utf8Decode?_encodeUtf8 (text : List Char) :
    (encodeUtf8 text).toByteArray.utf8Decode? = some text.toArray :=
  List.utf8Decode?_utf8Encode

theorem encodeUtf8_injective : Function.Injective encodeUtf8 := by
  intro s t h
  have heq := utf8Decode?_encodeUtf8 s
  rw [h, utf8Decode?_encodeUtf8] at heq
  simpa using heq.symm

theorem readsUtf8_encodeUtf8 {text : List Char} {v : Value} :
    ReadsUtf8 (encodeUtf8 text) v ↔ Reads text v := by
  constructor
  · rintro ⟨t, ht, hv⟩
    rw [utf8Decode?_encodeUtf8] at ht
    obtain rfl : text = t := by simpa using ht
    exact hv
  · intro hv
    exact ⟨text, utf8Decode?_encodeUtf8 text, hv⟩

theorem ReadsUtf8.unique {bytes : List UInt8} {v w : Value} (hv : ReadsUtf8 bytes v)
    (hw : ReadsUtf8 bytes w) : v = w := by
  obtain ⟨text, htext, hv⟩ := hv
  obtain ⟨text', htext', hw⟩ := hw
  rw [htext] at htext'
  obtain rfl : text = text' := by simpa using htext'
  exact hv.unique hw

theorem decodesUtf8_iff {bytes : List UInt8} {v : Value} :
    DecodesUtf8 bytes v ↔ ReadsUtf8 bytes v ∧ Standard v := by
  constructor
  · rintro ⟨text, htext, hreads, hstandard⟩
    exact ⟨⟨text, htext, hreads⟩, hstandard⟩
  · rintro ⟨⟨text, htext, hreads⟩, hstandard⟩
    exact ⟨text, htext, hreads, hstandard⟩

theorem decodesUtf8_encodeUtf8 {text : List Char} {v : Value} :
    DecodesUtf8 (encodeUtf8 text) v ↔ Decodes text v := by
  rw [decodesUtf8_iff, readsUtf8_encodeUtf8]
  rfl

end IotCore.JsonText
