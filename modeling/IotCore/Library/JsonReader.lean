import IotCore.Library.JsonText

/-! # A reader of JSON texts

A recursive descent over the tokens of a text. Every call spends one unit of fuel, and twice
the length of a text is enough for it, so that the reader accepts exactly the texts of the
grammar and those with the constants. -/

namespace IotCore.JsonText

/-! ## The reader -/

mutual

/-- A value at the front of a text, and what follows it. -/
def readValue : Nat → List Char → Option (Value × List Char)
  | 0, _ => none
  | n + 1, input =>
      match token input with
      | some (.scalar v, rest) => some (v, rest)
      | some (.openArray, rest) =>
          match token rest with
          | some (.closeArray, rest) => some (.array [], rest)
          | _ => (readElements n rest).map fun (vs, rest) => (.array vs, rest)
      | some (.openObject, rest) =>
          match token rest with
          | some (.closeObject, rest) => some (.object [], rest)
          | _ => (readMembers n rest).map fun (ms, rest) => (.object ms, rest)
      | _ => none

def readElements : Nat → List Char → Option (List Value × List Char)
  | 0, _ => none
  | n + 1, input =>
      (readValue n input).bind fun (v, rest) =>
        match token rest with
        | some (.closeArray, rest) => some ([v], rest)
        | some (.comma, rest) => (readElements n rest).map fun (vs, rest) => (v :: vs, rest)
        | _ => none

def readMembers : Nat → List Char → Option (List (Str × Value) × List Char)
  | 0, _ => none
  | n + 1, input =>
      match token input with
      | some (.scalar (.string key), rest) =>
          match token rest with
          | some (.colon, rest) =>
              (readValue n rest).bind fun (v, rest) =>
                match token rest with
                | some (.closeObject, rest) => some ([(key, v)], rest)
                | some (.comma, rest) =>
                    (readMembers n rest).map fun (ms, rest) => ((key, v) :: ms, rest)
                | _ => none
          | _ => none
      | _ => none

end

/-- The value that the whole text stands for. -/
def read (text : List Char) : Option Value :=
  match readValue (2 * text.length) text with
  | some (v, rest) => if skip rest = [] then some v else none
  | none => none

example : (read "[1, \x7b\"a\": [true]\x7d]".toList).isSome = true := by decide +kernel

/-! ## What is read is in the text -/

theorem reader_sound (n : Nat) :
    (∀ input v rest, readValue n input = some (v, rest) → Parses input (.value v) rest) ∧
      (∀ input vs rest, readElements n input = some (vs, rest) →
        Parses input (.elements vs) rest) ∧
      ∀ input ms rest, readMembers n input = some (ms, rest) →
        Parses input (.members ms) rest := by
  induction n with
  | zero => simp [readValue, readElements, readMembers]
  | succ n ih =>
      obtain ⟨ihValue, ihElements, ihMembers⟩ := ih
      refine ⟨?_, ?_, ?_⟩
      · intro input v rest h
        rw [readValue] at h
        split at h
        · rename_i heq
          cases h
          exact .scalar heq
        · rename_i heq
          split at h
          · rename_i hclose
            cases h
            exact .emptyArray heq hclose
          · obtain ⟨⟨vs, r⟩, hvs, h⟩ := Option.map_eq_some_iff.mp h
            cases h
            exact .array heq (ihElements _ _ _ hvs)
        · rename_i heq
          split at h
          · rename_i hclose
            cases h
            exact .emptyObject heq hclose
          · obtain ⟨⟨ms, r⟩, hms, h⟩ := Option.map_eq_some_iff.mp h
            cases h
            exact .object heq (ihMembers _ _ _ hms)
        · cases h
      · intro input vs rest h
        rw [readElements] at h
        obtain ⟨⟨v, r⟩, hv, h⟩ := Option.bind_eq_some_iff.mp h
        dsimp only at h
        split at h
        · rename_i hclose
          cases h
          exact .lastElement (ihValue _ _ _ hv) hclose
        · rename_i hcomma
          obtain ⟨⟨ws, r'⟩, hws, h⟩ := Option.map_eq_some_iff.mp h
          cases h
          exact .element (ihValue _ _ _ hv) hcomma (ihElements _ _ _ hws)
        · cases h
      · intro input ms rest h
        rw [readMembers] at h
        split at h
        · rename_i hkey
          split at h
          · rename_i hcolon
            obtain ⟨⟨v, r⟩, hv, h⟩ := Option.bind_eq_some_iff.mp h
            dsimp only at h
            split at h
            · rename_i hclose
              cases h
              exact .lastMember hkey hcolon (ihValue _ _ _ hv) hclose
            · rename_i hcomma
              obtain ⟨⟨ns, r'⟩, hns, h⟩ := Option.map_eq_some_iff.mp h
              cases h
              exact .member hkey hcolon (ihValue _ _ _ hv) hcomma (ihMembers _ _ _ hns)
            · cases h
          · cases h
        · cases h

/-! ## What is in the text is read -/

theorem dropWhile_length_le (p : Char → Bool) (input : List Char) :
    (input.dropWhile p).length ≤ input.length :=
  (List.dropWhile_suffix p).length_le

theorem keyword_length {input rest : List Char} {t : Token} (h : keyword input = some (t, rest)) :
    rest.length < input.length := by
  rw [keyword.eq_def] at h
  split at h <;> cases h <;> simp only [List.length_cons] <;> omega

/-- A token is not empty. -/
theorem token_length {input rest : List Char} {t : Token} (h : token input = some (t, rest)) :
    rest.length < input.length := by
  have hskip : (skip input).length ≤ input.length := dropWhile_length_le isSpace input
  rw [token] at h
  split at h
  · cases h
  · rename_i c after heq
    rw [heq, List.length_cons] at hskip
    split at h
    · obtain ⟨⟨s, r⟩, hscan, h⟩ := Option.map_eq_some_iff.mp h
      cases h
      have hlt := scan_length hscan
      omega
    · split at h
      · cases h
        omega
      · split at h
        · rename_i hn
          have hc : isNumberChar c = true := by
            rcases hn with rfl | hd
            · decide
            · simp [isNumberChar, hd]
          dsimp only at h
          rw [List.dropWhile_cons_of_pos hc] at h
          have hle := dropWhile_length_le isNumberChar after
          split at h
          · cases h
            omega
          · have hlt := keyword_length h
            rw [List.length_cons] at hlt
            omega
        · have hlt := keyword_length h
          rw [List.length_cons] at hlt
          omega

theorem Parses.length {i r : List Char} {x : Item} (h : Parses i x r) : r.length < i.length := by
  induction h with
  | scalar h => exact token_length h
  | emptyArray h hc | emptyObject h hc => exact Nat.lt_trans (token_length hc) (token_length h)
  | array h _ ih | object h _ ih => exact Nat.lt_trans ih (token_length h)
  | lastElement _ hc ih => exact Nat.lt_trans (token_length hc) ih
  | element _ hc _ ihv ihvs => exact Nat.lt_trans ihvs (Nat.lt_trans (token_length hc) ihv)
  | lastMember hkey hcolon _ hc ih =>
      have hkey := token_length hkey
      have hcolon := token_length hcolon
      have hc := token_length hc
      omega
  | member hkey hcolon _ hc _ ihv ihms =>
      have hkey := token_length hkey
      have hcolon := token_length hcolon
      have hc := token_length hc
      omega

/-- The reader finds an item when its fuel is twice as long as the item. -/
def Found (input rest : List Char) : Item → Prop
  | .value v =>
      ∀ n, 2 * input.length ≤ n + 2 * rest.length → readValue n input = some (v, rest)
  | .elements vs =>
      ∀ n, 2 * input.length ≤ n + 2 * rest.length → readElements n input = some (vs, rest)
  | .members ms =>
      ∀ n, 2 * input.length ≤ n + 2 * rest.length → readMembers n input = some (ms, rest)

/-- There is fuel for one more call. -/
theorem exists_fuel {i r : List Char} {n : Nat} (h : r.length < i.length)
    (hn : 2 * i.length ≤ n + 2 * r.length) : ∃ m, n = m + 1 ∧ 2 * i.length ≤ m + 1 + 2 * r.length :=
  ⟨n - 1, by omega, by omega⟩

theorem reader_complete {i r : List Char} {x : Item} (h : Parses i x r) : Found i r x := by
  induction h with
  | scalar h =>
      intro n hn
      obtain ⟨m, rfl, _⟩ := exists_fuel (token_length h) hn
      rw [readValue, h]
  | emptyArray h hc | emptyObject h hc =>
      intro n hn
      obtain ⟨m, rfl, _⟩ := exists_fuel (Nat.lt_trans (token_length hc) (token_length h)) hn
      simp [readValue, h, hc]
  | array h hvs ih =>
      intro n hn
      have hlt := token_length h
      obtain ⟨m, rfl, hm⟩ := exists_fuel (Nat.lt_trans hvs.length hlt) hn
      have hread := ih m (by omega)
      rw [readValue, h]
      dsimp only
      split
      · rename_i hc
        exact (hvs.not_closeArray hc).elim
      · simp [hread]
  | object h hms ih =>
      intro n hn
      have hlt := token_length h
      obtain ⟨m, rfl, hm⟩ := exists_fuel (Nat.lt_trans hms.length hlt) hn
      have hread := ih m (by omega)
      rw [readValue, h]
      dsimp only
      split
      · rename_i hc
        exact (hms.not_closeObject hc).elim
      · simp [hread]
  | lastElement hv hc ih =>
      intro n hn
      have hlt := token_length hc
      obtain ⟨m, rfl, hm⟩ := exists_fuel (Nat.lt_trans hlt hv.length) hn
      simp [readElements, ih m (by omega), hc]
  | element hv hc hvs ihv ihvs =>
      intro n hn
      have hlt := token_length hc
      have hltv := hv.length
      have hltvs := hvs.length
      obtain ⟨m, rfl, hm⟩ := exists_fuel (by omega) hn
      simp [readElements, ihv m (by omega), hc, ihvs m (by omega)]
  | lastMember hkey hcolon hv hc ih =>
      intro n hn
      have hltkey := token_length hkey
      have hltcolon := token_length hcolon
      have hlt := token_length hc
      have hltv := hv.length
      obtain ⟨m, rfl, hm⟩ := exists_fuel (by omega) hn
      simp [readMembers, hkey, hcolon, ih m (by omega), hc]
  | member hkey hcolon hv hc hms ihv ihms =>
      intro n hn
      have hltkey := token_length hkey
      have hltcolon := token_length hcolon
      have hlt := token_length hc
      have hltv := hv.length
      have hltms := hms.length
      obtain ⟨m, rfl, hm⟩ := exists_fuel (by omega) hn
      simp [readMembers, hkey, hcolon, ihv m (by omega), hc, ihms m (by omega)]

theorem read_eq_some_iff {text : List Char} {v : Value} : read text = some v ↔ Reads text v := by
  constructor
  · intro h
    rw [read] at h
    split at h
    · rename_i w rest heq
      split_ifs at h with hskip
      cases h
      exact ⟨rest, (reader_sound _).1 _ _ _ heq, hskip⟩
    · cases h
  · rintro ⟨rest, hparse, hskip⟩
    have hfound := reader_complete hparse (2 * text.length) (by omega)
    simp [read, hfound, hskip]

end IotCore.JsonText
