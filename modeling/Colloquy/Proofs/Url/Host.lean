import Colloquy.Url.Host

/-!
Hosts of schemes that have no rules of their own: which of them are held as they are written.
-/

namespace Colloquy.Url.Host

/-- A character that can be given for a part of an opaque host. -/
def isAllowed (c : Char) : Bool := 0x20 < c.toNat && !isForbiddenInName c

theorem parseOpaque_of_allowed {cs : List Char} (hne : cs ≠ [])
    (h : ∀ c ∈ cs, isForbiddenInName c = false) :
    parseOpaque cs = .ok (.name (String.ofList (percentEncode keepsOpaque cs))) := by
  have hbracket : bracketed? cs = none := by
    cases cs with
    | nil => rfl
    | cons c rest =>
      have hc : c ≠ '[' := by
        rintro rfl
        exact absurd (h '[' List.mem_cons_self) (by decide)
      simp [bracketed?, hc]
  have hallowed : ¬ cs.any isForbiddenInName = true := by simpa using h
  simp [parseOpaque, hbracket, hallowed, hne]

/-- A character that an opaque host holds as it is. -/
def isPlain (c : Char) : Bool := keepsOpaque c && !isForbiddenInName c

theorem isAllowed_of_isPlain {c : Char} (h : isPlain c = true) : isAllowed c = true := by
  simp only [isPlain, Bool.and_eq_true, Bool.not_eq_true'] at h
  have hspace : c ≠ ' ' := by
    rintro rfl
    exact absurd h.2 (by decide)
  have hcode : 0x20 < c.toNat := lt_toNat_of_ne_space (toNat_of_keepsOpaque h.1).1 hspace
  simp [isAllowed, hcode, h.2]

theorem parseOpaque_of_plain {cs : List Char} (hne : cs ≠ [])
    (h : ∀ c ∈ cs, isPlain c = true) : parseOpaque cs = .ok (.name (String.ofList cs)) := by
  have hkeeps : ∀ c ∈ cs, keepsOpaque c = true ∧ isForbiddenInName c = false := by
    intro c hc
    simpa [isPlain] using h c hc
  have hkept : percentEncode keepsOpaque cs = cs := percentEncode_eq_self fun c hc =>
    ⟨Nat.lt_succ_of_lt (toNat_of_keepsOpaque (hkeeps c hc).1).2, (hkeeps c hc).1⟩
  rw [parseOpaque_of_allowed hne fun c hc => (hkeeps c hc).2, hkept]

/-- What a scheme that is not special can have for its host, addresses in brackets apart: none, or
a name that is held as it is written. -/
def IsOpaque : Host → Prop
  | empty => True
  | name text => text ≠ "" ∧ ∀ c ∈ text.toList, isPlain c = true
  | ipv4 _ | ipv6 _ => False

/-- The other hosts of such schemes: an address that was read between brackets. -/
def IsAddress : Host → Prop
  | ipv6 pieces => ∃ cs, ipv6? cs = some pieces
  | empty | name _ | ipv4 _ => False

theorem IsAddress.bracket_mem {host : Host} (h : host.IsAddress) : '[' ∈ host.text.toList := by
  cases host with
  | ipv6 pieces => simp [text]
  | empty => exact h.elim
  | name text => exact h.elim
  | ipv4 address => exact h.elim

theorem IsOpaque.isPlain {host : Host} (h : host.IsOpaque) :
    ∀ c ∈ host.text.toList, Host.isPlain c = true := by
  cases host with
  | empty =>
    intro c hc
    cases hc
  | name text => exact h.2
  | ipv4 address => exact h.elim
  | ipv6 pieces => exact h.elim

theorem IsOpaque.parseOpaque {host : Host} (h : host.IsOpaque) :
    Host.parseOpaque host.text.toList = .ok host := by
  cases host with
  | empty => rfl
  | name text =>
    have hne : text.toList ≠ [] := by simpa using h.1
    have hparse := parseOpaque_of_plain hne h.2
    rwa [String.ofList_toList] at hparse
  | ipv4 address => exact h.elim
  | ipv6 pieces => exact h.elim

theorem isPlain_hexDigit (i : Fin 16) : isPlain (hexDigit i) = true := by
  revert i
  decide

theorem isOpaque_percentEncode {cs : List Char} (hne : cs ≠ [])
    (h : ∀ c ∈ cs, isForbiddenInName c = false) :
    (name (String.ofList (percentEncode keepsOpaque cs))).IsOpaque := by
  have hkept : percentEncode keepsOpaque cs ≠ [] := percentEncode_ne_nil _ hne
  refine ⟨by simpa using hkept, fun c hc => ?_⟩
  rw [String.toList_ofList] at hc
  rcases mem_percentEncode hc with ⟨hmem, hkeeps⟩ | rfl | ⟨i, rfl⟩
  · simp [isPlain, hkeeps, h c hmem]
  · decide
  · exact isPlain_hexDigit i

theorem isAddress_of_bracketed? {cs : List Char} {host : Host}
    (h : bracketed? cs = some (.ok host)) : host.IsAddress := by
  unfold bracketed? at h
  split at h
  · next rest =>
    split at h
    · cases hpieces : ipv6? rest.dropLast with
      | some pieces =>
        rw [hpieces] at h
        cases h
        exact ⟨rest.dropLast, hpieces⟩
      | none =>
        rw [hpieces] at h
        cases h
    · cases h
  · cases h

theorem parseOpaque_eq_ok {cs : List Char} {host : Host} (h : parseOpaque cs = .ok host) :
    host.IsOpaque ∨ host.IsAddress := by
  unfold parseOpaque at h
  split at h
  · next result hresult => exact .inr (isAddress_of_bracketed? (hresult.trans (congrArg some h)))
  · split at h
    · cases h
    · next hallowed =>
      split at h
      · cases h
        exact .inl trivial
      · next hne =>
        cases h
        exact .inl (isOpaque_percentEncode hne (by simpa using hallowed))

end Colloquy.Url.Host
