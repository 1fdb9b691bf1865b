import Colloquy.Proofs.Routing.Payload

/-!
Payloads are canonical: of all the texts that lead to one token, its payload is the one that tells
the token apart from every other.
-/

namespace Colloquy

namespace Url

/-- The schemes whose URLs have rules of their own. -/
def specialSchemes : List String := ["http", "https", "ws", "wss", "ftp", "file"]

theorem SchemeKind.ofScheme_of_not_mem {scheme : String} (h : scheme ∉ specialSchemes) :
    SchemeKind.ofScheme scheme = .other := by
  have hfile : scheme ≠ "file" := by
    rintro rfl
    exact h (by decide)
  have hspecial : scheme ∉ ["http", "https", "ws", "wss", "ftp"] := fun hmem =>
    h (List.mem_append_left ["file"] hmem)
  rw [ofScheme, if_neg hfile, if_neg hspecial]

end Url

namespace Routing

theorem Scheme.name_ofName (name : String) : (ofName name).name = name := by
  unfold ofName
  split <;> rfl

namespace Token

/-- A token for which a URL has neither rules of its own nor an address in brackets. -/
structure Ordinary (token : Token) : Prop where
  scheme : token.scheme.name ∉ Url.specialSchemes
  host : ¬ ∃ host : Url.Host, host.IsAddress ∧ host.text = token.host

theorem not_isAddress_of_not_mem {token : Token} (h : '[' ∉ token.host.toList) :
    ¬ ∃ host : Url.Host, host.IsAddress ∧ host.text = token.host := by
  rintro ⟨host, haddress, htext⟩
  exact h (htext ▸ haddress.bracket_mem)

theorem readable_of_ofUrl {raw : String} {url : Url} (h : Url.parse raw = .ok url)
    (hordinary : (ofUrl url).Ordinary) : (ofUrl url).Readable := by
  have hname : (ofUrl url).scheme.name = url.scheme := Scheme.name_ofName url.scheme
  have hkind : Url.SchemeKind.ofScheme url.scheme = .other :=
    Url.SchemeKind.ofScheme_of_not_mem (hname ▸ hordinary.scheme)
  obtain ⟨hkept, hopaque | haddress⟩ := Url.parse_eq_ok h hkind
  · exact ⟨⟨hname.symm ▸ hkept, hname.symm ▸ hkind, congrArg Scheme.ofName hname⟩,
      url.host, hopaque, rfl⟩
  · exact absurd ⟨url.host, haddress, rfl⟩ hordinary.host

theorem readable_of_parse {raw : String} {token : Token} (h : parse raw = .ok token)
    (hordinary : token.Ordinary) : token.Readable := by
  obtain ⟨url, hurl, rfl⟩ := exists_url_of_parse h
  exact readable_of_ofUrl hurl hordinary

/-- Whatever a text holds besides, the token that it leads to is read again from its payload, and
has that payload in common with no other token. -/
theorem payload_canonical {raw : String} {token : Token} (h : parse raw = .ok token)
    (hordinary : token.Ordinary) :
    parse token.payload = .ok token ∧
      (parse token.payload).map payload = .ok token.payload ∧
        ∀ raw' other, parse raw' = .ok other → other.Ordinary →
          (other.payload = token.payload ↔ other = token) := by
  have hagain := (readable_of_parse h hordinary).parse_payload
  refine ⟨hagain, by rw [hagain]; rfl, fun raw' other hother hordinary' => ⟨fun heq => ?_, ?_⟩⟩
  · have hback := (readable_of_parse hother hordinary').parse_payload
    rw [heq, hagain] at hback
    exact (Except.ok.inj hback).symm
  · rintro rfl
    rfl

theorem payload_canonical_messy :
    let raw := "\t Quiz-1://us%65r:p@R\u00e9d%2fRoom:0080/a/../b?z=%FF+1&&a=x%3D&z=2&e#top \n"
    let token : Token :=
      ⟨.other "quiz-1", "R%C3%A9d%2fRoom", .ofList [("a", "x="), ("e", ""), ("z", "\uFFFD 1")]⟩
    parse raw = .ok token ∧ token.Ordinary ∧
      token.payload = "quiz-1://R%C3%A9d%2fRoom?a=x%3D&e=&z=%EF%BF%BD+1" ∧
      parse token.payload = .ok token ∧
      (parse token.payload).map payload = .ok token.payload ∧
        ∀ raw' other, parse raw' = .ok other → other.Ordinary →
          (other.payload = token.payload ↔ other = token) := by
  intro raw token
  have hread : parse raw = .ok token := by decide +kernel
  have hordinary : token.Ordinary := ⟨by decide, not_isAddress_of_not_mem (by decide)⟩
  exact ⟨hread, hordinary, by decide +kernel, payload_canonical hread hordinary⟩

end Token

end Routing

end Colloquy
