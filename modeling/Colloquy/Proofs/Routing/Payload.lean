import Colloquy.Proofs.Dict
import Colloquy.Proofs.Url.Form
import Colloquy.Proofs.Url.Plain
import Colloquy.Routing.Token

/-!
Payloads can be read back: what a token is written as leads to that token again, whatever its
parameters hold.
-/

namespace Colloquy

namespace Url

/-- Letters, digits and the four marks that never need an escape. -/
def isUnreserved (c : Char) : Bool := c.isAlphanum || c ∈ ['-', '_', '.', '~']

theorem toNat_lt_of_isUnreserved {c : Char} (h : isUnreserved c = true) : c.toNat < 128 := by
  simp only [isUnreserved, Bool.or_eq_true, decide_eq_true_eq] at h
  rcases h with hletter | hmark
  · exact Nat.lt_of_le_of_lt (toNat_of_isAlphanum hletter).2 (by decide)
  · have hmarks : ∀ c ∈ ['-', '_', '.', '~'], c.toNat < 128 := by simp
    exact hmarks c hmark

theorem isPlain_of_isUnreserved {c : Char} (h : isUnreserved c = true) :
    Host.isPlain c = true := by
  have hall : ∀ c : Char, c.toNat < 128 → isUnreserved c = true → Host.isPlain c = true :=
    forall_ascii (by decide)
  exact hall c (toNat_lt_of_isUnreserved h) h

theorem Host.isOpaque_of_unreserved {text : String} (hne : text ≠ "")
    (h : ∀ c ∈ text.toList, isUnreserved c = true) : (Host.name text).IsOpaque :=
  ⟨hne, fun c hc => isPlain_of_isUnreserved (h c hc)⟩

theorem Form.keepsQuery_of_mem_encodePair {pair : String × String} {c : Char}
    (h : c ∈ Form.encodePair pair) : keepsQuery c = true := by
  rcases List.mem_append.mp h with hkey | hrest
  · exact (Form.isWritten_clean (Form.isWritten_of_mem_encodeChars hkey)).1
  · rcases List.mem_cons.mp hrest with rfl | hvalue
    · decide
    · exact (Form.isWritten_clean (Form.isWritten_of_mem_encodeChars hvalue)).1

theorem Form.keepsQuery_of_mem_encodePairs {pairs : List (String × String)} {c : Char}
    (h : c ∈ Form.encodePairs pairs) : keepsQuery c = true := by
  fun_induction Form.encodePairs pairs with
  | case1 => cases h
  | case2 key value =>
      have hpair : c ∈ Form.encodePair (key, value) := h
      exact Form.keepsQuery_of_mem_encodePair hpair
  | case3 key value rest hrest ih =>
      rcases List.mem_append.mp h with hfirst | hbehind
      · have hpair : c ∈ Form.encodePair (key, value) := hfirst
        exact Form.keepsQuery_of_mem_encodePair hpair
      · rcases List.mem_cons.mp hbehind with rfl | hlater
        · decide
        · exact ih hlater

end Url

namespace Routing

namespace Scheme

/-- The schemes of the tokens that a conversation follows. -/
def Followed (scheme : Scheme) : Prop := scheme = .nav ∨ scheme = .form ∨ scheme = .answer

/-- A scheme whose name is read as it is written, and by the rules that most schemes have. -/
structure Readable (scheme : Scheme) : Prop where
  kept : Url.IsScheme scheme.name
  kind : Url.SchemeKind.ofScheme scheme.name = .other
  named : ofName scheme.name = scheme

theorem Followed.readable {scheme : Scheme} (h : scheme.Followed) : scheme.Readable where
  kept := by
    rcases h with rfl | rfl | rfl
    · exact ⟨'n', ['a', 'v'], rfl, by decide, List.all_eq_true.mp rfl⟩
    · exact ⟨'f', ['o', 'r', 'm'], rfl, by decide, List.all_eq_true.mp rfl⟩
    · exact ⟨'a', ['n', 's', 'w', 'e', 'r'], rfl, by decide, List.all_eq_true.mp rfl⟩
  kind := by rcases h with rfl | rfl | rfl <;> decide
  named := by rcases h with rfl | rfl | rfl <;> rfl

theorem readable_answer : answer.Readable := Followed.readable (.inr (.inr rfl))

end Scheme

namespace Token

theorem exists_url_of_parse {raw : String} {token : Token} (h : parse raw = .ok token) :
    ∃ url, Url.parse raw = .ok url ∧ token = ofUrl url := by
  unfold parse at h
  split at h
  · next url hurl => exact ⟨url, hurl, (Except.ok.inj h).symm⟩
  · cases h

/-- A token whose address is kept as it is written: its scheme, and its host if it has one. -/
structure Readable (token : Token) : Prop where
  scheme : token.scheme.Readable
  host : ∃ host : Url.Host, host.IsOpaque ∧ host.text = token.host

namespace Readable

variable {token : Token}

theorem withParam (h : token.Readable) (key value : String) :
    (token.withParam key value).Readable :=
  ⟨h.scheme, h.host⟩

section

variable (h : token.Readable)

include h

theorem parse_of_query {query : Option (List Char)}
    (hquery : ∀ cs ∈ query, ∀ c ∈ cs, Url.keepsQuery c = true) :
    parse (token.scheme.name ++ "://" ++ token.host ++ String.ofList (Url.writtenQuery query)) =
      .ok ⟨token.scheme, token.host,
        .ofListFirst ((query.map String.ofList).elim [] Url.Form.decode)⟩ := by
  obtain ⟨host, hopaque, hhost⟩ := h.host
  rw [← hhost, parse, Url.parse_of_plain h.scheme.kept h.scheme.kind hopaque hquery]
  simp only [ofUrl, h.scheme.named, Url.queryPairs]
  cases query <;> rfl

theorem parse_pairs (pairs : List (String × String)) :
    parse (token.scheme.name ++ "://" ++ token.host ++ "?" ++ Url.Form.encode pairs) =
      .ok ⟨token.scheme, token.host, .ofListFirst pairs⟩ := by
  have hquery : ∀ cs ∈ some (Url.Form.encodePairs pairs), ∀ c ∈ cs, Url.keepsQuery c = true := by
    intro cs hcs c hc
    obtain rfl := Option.mem_some.mp hcs
    exact Url.Form.keepsQuery_of_mem_encodePairs hc
  have htext : token.scheme.name ++ "://" ++ token.host ++ "?" ++ Url.Form.encode pairs =
      token.scheme.name ++ "://" ++ token.host ++
        String.ofList (Url.writtenQuery (some (Url.Form.encodePairs pairs))) := by
    rw [← String.toList_inj]
    simp [Url.writtenQuery, Url.Form.encode]
  rw [htext, h.parse_of_query hquery, Option.map_some, Option.elim_some, ← Url.Form.encode,
    Url.Form.decode_encode]

theorem parse_bare :
    parse (token.scheme.name ++ "://" ++ token.host) = .ok ⟨token.scheme, token.host, ∅⟩ := by
  have hparse := h.parse_of_query fun cs (hcs : cs ∈ none) => by cases hcs
  rwa [Url.writtenQuery, String.ofList_nil, String.append_empty] at hparse

end

/-- What a readable token is written as is read as that token. -/
theorem parse_payload (h : token.Readable) : parse token.payload = .ok token := by
  obtain ⟨scheme, host, query⟩ := token
  cases hempty : query.isEmpty with
  | true =>
      obtain rfl : query = ∅ := Dict.eq_empty_of_isEmpty hempty
      rw [payload, if_pos hempty, String.append_empty]
      exact h.parse_bare
  | false =>
      have hparse := h.parse_pairs query.entries
      rw [Dict.ofListFirst_entries, String.append_assoc] at hparse
      rw [payload, if_neg (ne_true_of_eq_false hempty)]
      exact hparse

end Readable

variable {scheme : Scheme} {host : String}

section

variable (hscheme : scheme.Followed) (hne : host ≠ "")
  (hhost : ∀ c ∈ host.toList, Url.isUnreserved c = true)

include hscheme hne hhost

theorem readable_of_unreserved (query : Dict String) : Readable ⟨scheme, host, query⟩ where
  scheme := hscheme.readable
  host := ⟨.name host, Url.Host.isOpaque_of_unreserved hne hhost, rfl⟩

theorem parse_encode (pairs : List (String × String)) :
    parse (scheme.name ++ "://" ++ host ++ "?" ++ Url.Form.encode pairs) =
      .ok ⟨scheme, host, .ofListFirst pairs⟩ :=
  (readable_of_unreserved hscheme hne hhost ∅).parse_pairs pairs

theorem parse_without_query : parse (scheme.name ++ "://" ++ host) = .ok ⟨scheme, host, ∅⟩ :=
  (readable_of_unreserved hscheme hne hhost ∅).parse_bare

end

/-- Reading undoes writing.  Any list of parameters is read so that each key has the value that it
first comes with, and the payload of a token leads to the token. -/
theorem parse_written (hscheme : scheme.Followed) (hne : host ≠ "")
    (hhost : ∀ c ∈ host.toList, Url.isUnreserved c = true) :
    (∀ pairs : List (String × String), ∃ token,
      parse (scheme.name ++ "://" ++ host ++ "?" ++ Url.Form.encode pairs) = .ok token ∧
        token.scheme = scheme ∧ token.host = host ∧
        ∀ key, token.query.get? key = pairs.lookup key) ∧
    ∀ query : Dict String, parse (payload ⟨scheme, host, query⟩) = .ok ⟨scheme, host, query⟩ := by
  refine ⟨fun pairs => ⟨_, parse_encode hscheme hne hhost pairs, rfl, rfl,
    Dict.get?_ofListFirst pairs⟩, fun query => ?_⟩
  cases hempty : query.isEmpty with
  | true =>
      obtain rfl : query = ∅ := Dict.eq_empty_of_isEmpty hempty
      rw [payload, if_pos hempty, String.append_empty]
      exact parse_without_query hscheme hne hhost
  | false =>
      have hparse := parse_encode hscheme hne hhost query.entries
      rw [Dict.ofListFirst_entries, String.append_assoc] at hparse
      rw [payload, if_neg (ne_true_of_eq_false hempty)]
      exact hparse

theorem parse_written_marks :
    let pairs := [("", "1"), ("a&=%+# ", "é\n"), ("", "2"), ("b", "")]
    Scheme.Followed .form ∧ "a-b_c.~1" ≠ "" ∧
    (∀ c ∈ "a-b_c.~1".toList, Url.isUnreserved c = true) ∧
    Url.Form.encode pairs = "=1&a%26%3D%25%2B%23+=%C3%A9%0A&=2&b=" ∧
    (∃ token, parse ("form://a-b_c.~1?" ++ Url.Form.encode pairs) = .ok token ∧
      token.scheme = .form ∧ token.host = "a-b_c.~1" ∧
      ∀ key, token.query.get? key = pairs.lookup key) ∧
    parse (payload ⟨.form, "a-b_c.~1", .ofList pairs⟩) =
      .ok ⟨.form, "a-b_c.~1", .ofList pairs⟩ := by
  have hscheme : Scheme.Followed .form := .inr (.inl rfl)
  have hne : "a-b_c.~1" ≠ "" := by decide
  have hhost : ∀ c ∈ "a-b_c.~1".toList, Url.isUnreserved c = true :=
    List.all_eq_true.mp (by decide)
  have hwritten := parse_written hscheme hne hhost
  exact ⟨hscheme, hne, hhost, by decide +kernel, hwritten.1 _, hwritten.2 _⟩

end Token

end Routing

end Colloquy
