import IotCore.Model.EventStream.AuthToken
import IotCore.Verification.EventStream.Sending

/-! # The token in the payload of CONNECT

The payload is a template around the token, which is put in as it is. It says what was meant
when the token has no character that a JSON string escapes, and never else. -/

namespace IotCore.EventStream

open JsonText

/-! ## The text and its bytes -/

/-- The payload as text, when all of the token can be encoded. -/
def payloadText (cs : List Char) : List Char := templateStart ++ cs ++ templateEnd

theorem encode_ofChars (cs : List Char) : encode (.ofChars cs) = some (encodeUtf8 cs) := by
  induction cs with
  | nil => rfl
  | cons c cs ih =>
      have hcons : Str.ofChars (c :: cs) = .char c :: Str.ofChars cs := rfl
      rw [hcons, encode, ih]
      rfl

theorem encode_append (s t : Str) :
    encode (s ++ t) = (encode s).bind fun bytes => (encode t).map (bytes ++ ·) := by
  induction s with
  | nil => simp [encode]
  | cons c s ih =>
      cases c with
      | surrogate n => rfl
      | char c =>
          rw [List.cons_append, encode, encode, ih]
          cases encode s <;> cases encode t <;> simp

/-- Only a surrogate makes `encode` raise. -/
theorem encode_cases (s : Str) : (∃ cs, s = .ofChars cs) ∨ encode s = none := by
  induction s with
  | nil => exact .inl ⟨[], rfl⟩
  | cons c s ih =>
      cases c with
      | surrogate n => exact .inr rfl
      | char c =>
          rcases ih with ⟨cs, rfl⟩ | hnone
          · exact .inl ⟨c :: cs, rfl⟩
          · exact .inr (by simp [encode, hnone])

theorem createStaticAuthtokenAmender_ofChars (cs : List Char) :
    createStaticAuthtokenAmender (.ofChars cs) =
      some { payload := some (encodeUtf8 (payloadText cs)) } := by
  have htext : payloadStr (.ofChars cs) = .ofChars (payloadText cs) := by
    simp [payloadStr, payloadText, Str.ofChars]
  rw [createStaticAuthtokenAmender, htext, encode_ofChars]
  rfl

/-- The amender either raises or returns the bytes of the text. -/
theorem createStaticAuthtokenAmender_cases (authtoken : Str) :
    createStaticAuthtokenAmender authtoken = none ∨
      ∃ cs, authtoken = .ofChars cs ∧ createStaticAuthtokenAmender authtoken =
        some { payload := some (encodeUtf8 (payloadText cs)) } := by
  rcases encode_cases authtoken with ⟨cs, rfl⟩ | hnone
  · exact .inr ⟨cs, rfl, createStaticAuthtokenAmender_ofChars cs⟩
  · left
    simp [createStaticAuthtokenAmender, payloadStr, encode_append, hnone]

/-- Two tokens never share a payload. -/
theorem createStaticAuthtokenAmender_inj {s t : Str} {amendment : MessageAmendment}
    (hs : createStaticAuthtokenAmender s = some amendment)
    (ht : createStaticAuthtokenAmender t = some amendment) : s = t := by
  rcases createStaticAuthtokenAmender_cases s with hnone | ⟨cs, rfl, hcs⟩
  · rw [hnone] at hs
    cases hs
  rcases createStaticAuthtokenAmender_cases t with hnone | ⟨ds, rfl, hds⟩
  · rw [hnone] at ht
    cases ht
  rw [hcs, ← ht, hds] at hs
  have hbytes : encodeUtf8 (payloadText cs) = encodeUtf8 (payloadText ds) := by
    simpa using hs
  have htext := encodeUtf8_injective hbytes
  simp only [payloadText, List.append_cancel_right_eq, List.append_cancel_left_eq] at htext
  rw [htext]

/-! ## What the text stands for -/

def authTokenKey : List Char := "authToken".toList

/-- What the payload is meant to stand for. -/
def authObject (authtoken : Str) : Value := .object [(.ofChars authTokenKey, .string authtoken)]

theorem authTokenKey_unescaped : ∀ c ∈ authTokenKey, Unescaped c := by
  have hall : authTokenKey.all (Unescaped ·) := by decide
  simpa using hall

theorem payloadText_eq (cs : List Char) :
    payloadText cs =
      '\x7b' :: quote ::
        (authTokenKey ++ quote :: ':' :: ' ' :: quote :: (cs ++ [quote, '\x7d'])) := by
  have hstart : templateStart =
      '\x7b' :: quote :: (authTokenKey ++ [quote, ':', ' ', quote]) := by decide
  have hend : templateEnd = [quote, '\x7d'] := by decide
  simp [payloadText, hstart, hend]

/-- An object whose first member is a string that starts after the fourth quotation mark. -/
theorem scan_of_decodes {input : List Char} {key s : Str}
    (h : Decodes ('\x7b' :: quote :: (authTokenKey ++ quote :: ':' :: ' ' :: quote :: input))
      (.object [(key, .string s)])) :
    ∃ t rest, scan input = some (t, rest) ∧ joinPairs t = s ∧ rest ≠ [] := by
  obtain ⟨⟨r, hp, _⟩, _⟩ := h
  cases hp with
  | scalar ht => cases (token_openObject _).symm.trans ht
  | object ho hms =>
      cases (token_openObject _).symm.trans ho
      cases hms with
      | member _ _ _ _ hms => cases hms
      | lastMember hkey hcolon hv hc =>
          cases (token_string authTokenKey_unescaped _).symm.trans hkey
          cases (token_colon _).symm.trans hcolon
          cases hv with
          | scalar ht =>
              rw [token_space rfl, token_quote] at ht
              obtain ⟨⟨t, rest⟩, ht, heq⟩ := Option.map_eq_some_iff.mp ht
              cases heq
              refine ⟨t, _, ht, rfl, ?_⟩
              rintro rfl
              cases hc

theorem decodes_payloadText {cs : List Char} (h : ∀ c ∈ cs, Unescaped c) :
    Decodes (payloadText cs) (authObject (.ofChars cs)) := by
  rw [payloadText_eq]
  have hvalue : token (' ' :: quote :: (cs ++ [quote, '\x7d'])) =
      some (.scalar (.string (.ofChars cs)), ['\x7d']) := by
    rw [token_space rfl]
    exact token_string h _
  have hparse := Parses.object (token_openObject _)
    (.lastMember (token_string authTokenKey_unescaped _) (token_colon _) (.scalar hvalue)
      (token_closeObject []))
  exact ⟨⟨[], hparse, rfl⟩, trivial, trivial⟩

/-- What is read up to the closing mark is as long as the token only if nothing in it is
escaped. -/
theorem unescaped_of_decodes {cs : List Char}
    (h : Decodes (payloadText cs) (authObject (.ofChars cs))) : ∀ c ∈ cs, Unescaped c := by
  rw [payloadText_eq] at h
  obtain ⟨t, rest, ht, hjoin, hrest⟩ := scan_of_decodes h
  rcases scan_cases ht with ⟨raw, heq, rfl, hraw⟩ | hlt
  · rw [joinPairs_ofChars] at hjoin
    rw [← Str.ofChars_injective hjoin]
    exact hraw
  · exfalso
    have hlen : cs.length ≤ t.length := by
      have hle := joinPairs_length_le t
      rw [hjoin] at hle
      simpa [Str.ofChars] using hle
    have hpos := List.length_pos_iff.mpr hrest
    simp only [List.length_append, List.length_cons, List.length_nil] at hlt
    omega

/-- A token that ends the string itself can add any member. -/
theorem decodes_payloadText_added {cs key value : List Char} (hcs : ∀ c ∈ cs, Unescaped c)
    (hkey : ∀ c ∈ key, Unescaped c) (hvalue : ∀ c ∈ value, Unescaped c) :
    Decodes
      (payloadText (cs ++ quote :: ',' :: quote :: (key ++ quote :: ':' :: quote :: value)))
      (.object
        [(.ofChars authTokenKey, .string (.ofChars cs)),
          (.ofChars key, .string (.ofChars value))]) := by
  rw [payloadText_eq]
  simp only [List.append_assoc, List.cons_append]
  have hfirst : ∀ rest, token (' ' :: quote :: (cs ++ quote :: rest)) =
      some (.scalar (.string (.ofChars cs)), rest) := fun rest => by
    rw [token_space rfl]
    exact token_string hcs rest
  have hadded := Parses.lastMember (token_string hkey _) (token_colon _)
    (.scalar (token_string hvalue ['\x7d'])) (token_closeObject [])
  have hparse := Parses.object (token_openObject _)
    (.member (token_string authTokenKey_unescaped _) (token_colon _) (.scalar (hfirst _))
      (token_comma _) hadded)
  exact ⟨⟨[], hparse, rfl⟩, trivial, trivial, trivial⟩

namespace Connection

open Machine

/-! ## What CONNECT carries -/

/-- The amendment that an attempt is about to send and the one it has sent were returned to it
by the amender. -/
structure Carries (as : List Action) (n : Nat) (a : Attempt) : Prop where
  sending : ∀ amendment, a.pc = .sending amendment → .amended n amendment ∈ as
  sent : ∀ m, a.sent.head? = some m →
    ∃ amendment, .amended n amendment ∈ as ∧ m = connectMessage amendment

theorem Carries.keep {as : List Action} {n : Nat} {a a' : Attempt} (h : Carries as n a)
    (b : Action) (hpc : ∀ amendment, a'.pc = .sending amendment → a.pc = .sending amendment)
    (hsent : a'.sent = a.sent) : Carries (as ++ [b]) n a' where
  sending := fun amendment ha => List.mem_append_left _ (h.sending amendment (hpc amendment ha))
  sent := by
    intro m hm
    rw [hsent] at hm
    obtain ⟨amendment, hmem, heq⟩ := h.sent m hm
    exact ⟨amendment, List.mem_append_left _ hmem, heq⟩

theorem Move.carries {as : List Action} {n : Nat} {v v' : View} {a : Action}
    (hmove : Move n v a v') (hsends : Sends n v)
    (hsetup : a = .connectionSetup n none → v'.attempt.pc = .amending)
    (h : Carries as n v.attempt) : Carries (as ++ [a]) n v'.attempt := by
  cases hmove with
  | goto hgoto =>
      refine ⟨fun amendment hpc => ?_, (h.keep a (fun _ => id) rfl).sent⟩
      obtain rfl := hpc
      generalize v.attempt.pc = pc at hgoto
      cases hgoto with
      | setup _ _ => cases hsetup rfl
      | amended => simp
  | sent amendment hpc hg =>
      have hnil : v.attempt.sent = [] := hsends.opening (by rw [hpc]; rfl)
      refine ⟨by simp, fun m hm => ⟨amendment, List.mem_append_left _ (h.sending _ hpc), ?_⟩⟩
      simpa [hnil, connectMessage] using hm.symm
  | transmitted g m hat hg hconn ha =>
      obtain ⟨told, rfl⟩ := hat.established (.inl hconn)
      obtain ⟨amendment, rest, hsent⟩ := hsends.accepted hg.accepted
      have hkeep := h.keep a (fun _ => id) rfl
      refine ⟨hkeep.sending, fun m' hm' => hkeep.sent m' ?_⟩
      simpa [hsent] using hm'
  | closed g reason hat hg => cases g.joined <;> exact h.keep _ (fun _ => id) rfl
  | rejected m hpc hm hf hg => exact h.keep _ (by simp [hpc]) rfl
  | _ => exact h.keep _ (by simp) rfl

theorem StepCases.carries {as : List Action} {s s' : State} {a : Action}
    (hcases : StepCases s a s') (hs : step true s a = some s')
    (hsends : ∀ n, Sends n (s.view n)) (h : ∀ n, Carries as n (s.attempt n)) :
    ∀ n, Carries (as ++ [a]) n (s'.attempt n) := by
  intro n
  rcases hcases.attempt n with heq | ⟨v, hmove, heq⟩ | ⟨hn, heq⟩
  · rw [heq]
    exact (h n).keep a (fun _ => id) rfl
  · have hsetup : a = .connectionSetup n none → v.attempt.pc = .amending := by
      rintro rfl
      simp only [step, ne_eq, ite_not, Option.ite_none_right_eq_some] at hs
      obtain rfl : s.goto n .amending = s' := by simpa using hs.2
      rw [← heq]
      simp
    rw [heq]
    exact hmove.carries (hsends n) hsetup (h n)
  · rw [heq]
    exact (h n).keep a (by simp) rfl

theorem carries_run {as : List Action} {s : State} (h : run (step true) init as = some s) :
    ∀ n, Carries as n (s.attempt n) := by
  have hall : Inv s ∧ (∀ n, Sends n (s.view n)) ∧ ∀ n, Carries as n (s.attempt n) := by
    refine run_history
      (I := fun as s => Inv s ∧ (∀ n, Sends n (s.view n)) ∧ ∀ n, Carries as n (s.attempt n))
      ?_ h ⟨inv_init, sends_init, fun n => ⟨by simp [init], by simp [init]⟩⟩
    rintro as s a s' ⟨hI, hsends, hcarries⟩ hs
    have hcases := step_cases hI hs
    exact ⟨inv_step hI hs, hcases.sends hI hsends, hcases.carries hs hsends hcarries⟩
  exact hall.2.2

end Connection

/-! ## The contract -/

open Connection Machine

/-- The bytes are a JSON text for the object with the token, and for nothing else. -/
def CarriesToken (authtoken : Str) (payload : List UInt8) : Prop :=
  ∀ v, DecodesUtf8 payload v ↔ v = authObject authtoken

structure AuthSpec (authtoken : Str) : Prop where
  produced : ∃ payload, createStaticAuthtokenAmender authtoken = some { payload := some payload } ∧
    CarriesToken authtoken payload
  /-- what is sent first on any native connection, when the amender is the one for the token -/
  sent : ∀ as s n m, run (step true) init as = some s →
    (∀ k amendment, .amended k amendment ∈ as →
      createStaticAuthtokenAmender authtoken = some amendment) →
    (s.attempt n).sent.head? = some m →
    ∃ payload, m = .message .connect (some [versionHeader]) (some payload) ∧
      CarriesToken authtoken payload
  distinct : ∀ other amendment, createStaticAuthtokenAmender authtoken = some amendment →
    createStaticAuthtokenAmender other = some amendment → other = authtoken

/-- The code point stands for itself in a JSON string and can be encoded. -/
def Plain : CodePoint → Prop
  | .char c => Unescaped c
  | .surrogate _ => False

instance : DecidablePred Plain
  | .char c => inferInstanceAs (Decidable (Unescaped c))
  | .surrogate _ => .isFalse id

theorem plain_iff (s : Str) :
    (∀ p ∈ s, Plain p) ↔ ∃ cs, s = .ofChars cs ∧ ∀ c ∈ cs, Unescaped c := by
  constructor
  · intro h
    induction s with
    | nil => exact ⟨[], rfl, by simp⟩
    | cons p s ih =>
        obtain ⟨hp, hs⟩ := List.forall_mem_cons.mp h
        obtain ⟨cs, rfl, hcs⟩ := ih hs
        cases p with
        | char c => exact ⟨c :: cs, rfl, List.forall_mem_cons.mpr ⟨hp, hcs⟩⟩
        | surrogate n => exact hp.elim
  · rintro ⟨cs, rfl, hcs⟩ p hp
    obtain ⟨c, hc, rfl⟩ := List.mem_map.mp hp
    exact hcs c hc

theorem carriesToken_iff (cs : List Char) :
    CarriesToken (.ofChars cs) (encodeUtf8 (payloadText cs)) ↔ ∀ c ∈ cs, Unescaped c := by
  constructor
  · intro h
    exact unescaped_of_decodes (decodesUtf8_encodeUtf8.mp ((h _).mpr rfl))
  · intro h v
    rw [decodesUtf8_encodeUtf8]
    constructor
    · exact fun hv => hv.unique (decodes_payloadText h)
    · rintro rfl
      exact decodes_payloadText h

theorem AuthSpec.plain {authtoken : Str} (h : AuthSpec authtoken) : ∀ p ∈ authtoken, Plain p := by
  obtain ⟨payload, hpayload, hcarries⟩ := h.produced
  rw [plain_iff]
  rcases createStaticAuthtokenAmender_cases authtoken with hnone | ⟨cs, rfl, hcs⟩
  · rw [hnone] at hpayload
    cases hpayload
  · rw [hcs] at hpayload
    cases hpayload
    exact ⟨cs, rfl, (carriesToken_iff cs).mp hcarries⟩

/-- The payload carries the token exactly when nothing in the token has to be escaped. -/
theorem authSpec_iff (authtoken : Str) : AuthSpec authtoken ↔ ∀ p ∈ authtoken, Plain p := by
  refine ⟨AuthSpec.plain, fun h => ?_⟩
  obtain ⟨cs, rfl, hcs⟩ := (plain_iff authtoken).mp h
  have hamender := createStaticAuthtokenAmender_ofChars cs
  have hcarries := (carriesToken_iff cs).mpr hcs
  refine ⟨⟨_, hamender, hcarries⟩, ?_, fun other amendment hs ho =>
    createStaticAuthtokenAmender_inj ho hs⟩
  intro as s n m hrun huses hm
  obtain ⟨amendment, hmem, rfl⟩ := (carries_run hrun n).sent m hm
  have hsome := huses n amendment hmem
  rw [hamender] at hsome
  cases hsome
  exact ⟨_, rfl, hcarries⟩

/-- A token that is one quotation mark. -/
theorem not_authSpec_quote : ¬AuthSpec [.char quote] := by
  intro h
  have hplain := h.plain
  revert hplain
  decide

end IotCore.EventStream
