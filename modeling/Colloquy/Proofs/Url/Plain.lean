import Colloquy.Proofs.Except
import Colloquy.Proofs.Url.Host
import Colloquy.Url.Basic
import Mathlib.Data.List.TakeWhile

/-!
URLs whose scheme has no rules of its own.  Those that are written plainly are read as they are
written; of any other the scheme and the host are kept in one form.
-/

namespace Colloquy.Url

theorem isTrimmed_eq_false {c : Char} (h : 0x20 < c.toNat) : isTrimmed c = false := by
  simpa [isTrimmed] using h

theorem isIgnored_eq_false {c : Char} (h : 0x20 < c.toNat) : isIgnored c = false := by
  simp only [isIgnored, Bool.or_eq_false_iff, beq_eq_false_iff_ne]
  refine ⟨⟨?_, ?_⟩, ?_⟩ <;> rintro rfl <;> exact absurd h (by decide)

theorem significant_eq_self {cs : List Char} (h : ∀ c ∈ cs, 0x20 < c.toNat) :
    significant cs = cs := by
  have hends : ∀ ds : List Char, (∀ c ∈ ds, c ∈ cs) → ds.dropWhile isTrimmed = ds := by
    intro ds hds
    cases ds with
    | nil => rfl
    | cons c rest =>
      rw [List.dropWhile_cons_of_neg]
      simp [isTrimmed_eq_false (h c (hds c List.mem_cons_self))]
  have hinside : ∀ c ∈ cs, (!isIgnored c) = true := by
    intro c hc
    rw [isIgnored_eq_false (h c hc)]
    rfl
  rw [significant, hends cs fun _ hc => hc, hends cs.reverse fun _ hc => List.mem_reverse.1 hc,
    List.reverse_reverse, List.filter_eq_self.2 hinside]

/-- A character that a scheme holds as it is. -/
def isPlainInScheme (c : Char) : Bool := c.isLower || c.isDigit || c ∈ ['+', '-', '.']

theorem isSchemeChar_of_plain {c : Char} (h : isPlainInScheme c = true) :
    isSchemeChar c = true ∧ c.toLower = c := by
  simp only [isPlainInScheme, Bool.or_eq_true, decide_eq_true_eq] at h
  have hupper : ¬ c.isUpper = true := by
    intro hupper
    have := toNat_of_isUpper hupper
    rcases h with (hlower | hdigit) | hmark
    · have := toNat_of_isLower hlower
      omega
    · have := toNat_of_isDigit hdigit
      omega
    · have hmarks : ∀ c ∈ ['+', '-', '.'], c.toNat < 65 := by simp
      have := hmarks c hmark
      omega
  refine ⟨?_, dif_neg fun hrange => hupper (decide_eq_true hrange)⟩
  rcases h with (hlower | hdigit) | hmark
  · simp [isSchemeChar, isAlphanum_eq, hlower]
  · simp [isSchemeChar, isAlphanum_eq, hdigit]
  · simp [isSchemeChar, hmark]

theorem splitScheme?_of_plain {c : Char} {cs : List Char} (hc : c.isLower = true)
    (hcs : ∀ d ∈ cs, isPlainInScheme d = true) (rest : List Char) :
    splitScheme? (c :: cs ++ ':' :: rest) = some (String.ofList (c :: cs), rest) := by
  have hplain : ∀ d ∈ c :: cs, isSchemeChar d = true ∧ d.toLower = d := by
    intro d hd
    rcases List.mem_cons.1 hd with rfl | hd
    · exact isSchemeChar_of_plain (by simp [isPlainInScheme, hc])
    · exact isSchemeChar_of_plain (hcs d hd)
  have hscheme : ∀ d ∈ c :: cs, isSchemeChar d = true := fun d hd => (hplain d hd).1
  have hcolon : ¬ isSchemeChar ':' = true := by decide
  have hlower : (c :: cs).map Char.toLower = c :: cs :=
    (List.map_congr_left fun d hd => (hplain d hd).2).trans (List.map_id' _)
  have hletter : c.isAlpha = true := Bool.or_eq_true_iff.2 (.inr hc)
  rw [List.cons_append, splitScheme?, if_pos hletter, ← List.cons_append,
    List.dropWhile_append_of_pos hscheme, List.takeWhile_append_of_pos hscheme,
    List.dropWhile_cons_of_neg hcolon, List.takeWhile_cons_of_neg hcolon, List.append_nil, hlower]
  rfl

/-- A scheme as it is kept: in lower case, and with a letter first. -/
def IsScheme (scheme : String) : Prop :=
  ∃ c cs, scheme = String.ofList (c :: cs) ∧ c.isLower = true ∧
    ∀ d ∈ cs, isPlainInScheme d = true

theorem toNat_lt_of_isSchemeChar {c : Char} (h : isSchemeChar c = true) :
    c.toNat < 128 := by
  simp only [isSchemeChar, Bool.or_eq_true, decide_eq_true_eq] at h
  rcases h with hletter | hmark
  · exact Nat.lt_of_le_of_lt (toNat_of_isAlphanum hletter).2 (by decide)
  · have hmarks : ∀ c ∈ ['+', '-', '.'], c.toNat < 128 := by simp
    exact hmarks c hmark

theorem toLower_of_isSchemeChar {c : Char} (h : isSchemeChar c = true) :
    isPlainInScheme c.toLower = true ∧ (c.isAlpha = true → c.toLower.isLower = true) := by
  have hall : ∀ c : Char, c.toNat < 128 → isSchemeChar c = true →
      isPlainInScheme c.toLower = true ∧ (c.isAlpha = true → c.toLower.isLower = true) :=
    forall_ascii (by decide)
  exact hall c (toNat_lt_of_isSchemeChar h) h

theorem isScheme_of_splitScheme? {cs : List Char} {scheme : String} {rest : List Char}
    (h : splitScheme? cs = some (scheme, rest)) : IsScheme scheme := by
  unfold splitScheme? at h
  split at h
  · next c tail =>
    split at h
    · next hletter =>
      split at h
      · cases h
        have hc : isSchemeChar c = true := by
          simp [isSchemeChar, Char.isAlphanum, hletter]
        rw [List.takeWhile_cons_of_pos hc, List.map_cons]
        refine ⟨_, _, rfl, (toLower_of_isSchemeChar hc).2 hletter, fun d hd => ?_⟩
        obtain ⟨e, he, rfl⟩ := List.mem_map.1 hd
        exact (toLower_of_isSchemeChar (List.all_eq_true.1 List.all_takeWhile e he)).1
      · cases h
    · cases h
  · cases h

/-!
Authorities.
-/

theorem splitHost_of_plain {cs : List Char} (hcolon : ':' ∉ cs) (hbracket : '[' ∉ cs) :
    splitHost false cs = (cs, []) := by
  induction cs with
  | nil => rfl
  | cons c rest ih =>
    have hc : c ≠ ':' := fun heq => hcolon (heq ▸ List.mem_cons_self)
    have hb : c ≠ '[' := fun heq => hbracket (heq ▸ List.mem_cons_self)
    have hrest := ih (fun hmem => hcolon (List.mem_cons_of_mem c hmem))
      fun hmem => hbracket (List.mem_cons_of_mem c hmem)
    simp [splitHost, hc, hb, hrest]

theorem readAuthority_of_allowed (scheme : String) {cs : List Char}
    (h : ∀ c ∈ cs, Host.isAllowed c = true) {host : Host} (hhost : Host.parseOpaque cs = .ok host)
    (atEnd : Bool) : readAuthority scheme .other cs atEnd = .ok ⟨host, none, []⟩ := by
  have hnot : ∀ c, Host.isAllowed c = false → c ∉ cs := by
    intro c hc hmem
    rw [h c hmem] at hc
    cases hc
  have huser : splitUserInfo cs = (none, cs) := if_neg (hnot '@' (by decide))
  have hsplit := splitHost_of_plain (hnot ':' (by decide)) (hnot '[' (by decide))
  simp [readAuthority, huser, hsplit, hhost, bind, Except.bind, pure, Except.pure]

theorem mem_of_splitUserInfo {cs : List Char} : ∀ c ∈ (splitUserInfo cs).2, c ∈ cs := by
  unfold splitUserInfo
  split
  · intro c hc
    exact List.mem_reverse.1 ((List.takeWhile_sublist _).subset (List.mem_reverse.1 hc))
  · exact fun c hc => hc

theorem mem_of_splitHost {inBrackets : Bool} {cs : List Char} :
    ∀ c ∈ (splitHost inBrackets cs).2, c ∈ cs := by
  induction cs generalizing inBrackets with
  | nil =>
    intro c hc
    cases hc
  | cons first rest ih =>
    intro c hc
    rw [splitHost] at hc
    split at hc
    · exact hc
    · exact List.mem_cons_of_mem first (ih c hc)

theorem mem_of_readPort {scheme : String} {cs rest : List Char} {port : Option Nat}
    (h : readPort scheme cs = .ok (port, rest)) : ∀ c ∈ rest, c ∈ cs := by
  have hrest : cs.dropWhile Char.isDigit = rest := by
    unfold readPort at h
    dsimp only at h
    split at h
    · cases h
    · split at h
      · exact (Prod.mk.inj (Except.ok.inj h)).2
      · exact (Prod.mk.inj (Except.ok.inj h)).2
      · cases h
  intro c hc
  rw [← hrest] at hc
  exact (List.dropWhile_sublist _).subset hc

/-- A host is found, and no character is made up. -/
theorem readAuthority_eq_ok {scheme : String} {cs : List Char} {atEnd : Bool}
    {found : Authority} (h : readAuthority scheme .other cs atEnd = .ok found) :
    (found.host.IsOpaque ∨ found.host.IsAddress) ∧ ∀ c ∈ found.rest, c ∈ cs := by
  have hmem : ∀ c ∈ (splitUserInfo cs).2, c ∈ cs := mem_of_splitUserInfo
  unfold readAuthority at h
  simp only [bind, Except.bind, pure, Except.pure, throw, throwThe, MonadExceptOf.throw] at h
  generalize splitUserInfo cs = parts at h hmem
  obtain ⟨user, hostPort⟩ := parts
  have hafter : ∀ c ∈ (splitHost false hostPort).2, c ∈ cs := fun c hc =>
    hmem c (mem_of_splitHost c hc)
  dsimp only at h
  obtain ⟨-, h⟩ := eq_of_guard_eq_ok h
  obtain ⟨-, h⟩ := eq_of_guard_eq_ok h
  rw [if_pos trivial] at h
  cases hhost : Host.parseOpaque (splitHost false hostPort).1 with
  | error fault =>
    rw [hhost] at h
    cases h
  | ok host =>
    rw [hhost] at h
    suffices hfound : found.host = host ∧ ∀ c ∈ found.rest, c ∈ cs from
      ⟨hfound.1 ▸ Host.parseOpaque_eq_ok hhost, hfound.2⟩
    dsimp only at h
    split at h
    · next digits hdigits =>
      obtain ⟨-, h⟩ := eq_of_guard_eq_ok h
      cases hport : readPort scheme digits with
      | error fault =>
        rw [hport] at h
        cases h
      | ok read =>
        rw [hport] at h
        obtain rfl := Except.ok.inj (eq_of_guard_eq_ok h).2
        refine ⟨rfl, fun c hc => hafter c ?_⟩
        rw [hdigits]
        exact List.mem_cons_of_mem ':' (mem_of_readPort hport c hc)
    · obtain rfl := Except.ok.inj (eq_of_guard_eq_ok h).2
      exact ⟨rfl, hafter⟩

/-!
Queries.
-/

/-- What follows the host of a URL without a path. -/
def writtenQuery : Option (List Char) → List Char
  | none => []
  | some query => '?' :: query

theorem splitQuery_mark {cs : List Char} (h : '#' ∉ cs) :
    splitQuery false ('?' :: cs) = ([], some (String.ofList (percentEncode keepsQuery cs))) := by
  have hbody : ∀ c ∈ cs, (!decide (c = '#')) = true := by
    intro c hc
    simpa using fun heq : c = '#' => h (heq ▸ hc)
  simp [splitQuery, List.takeWhile_eq_self_iff.2 hbody]

theorem splitQuery_written {query : Option (List Char)}
    (h : ∀ cs ∈ query, ∀ c ∈ cs, keepsQuery c = true) :
    splitQuery false (writtenQuery query) = ([], query.map String.ofList) := by
  cases query with
  | none => rfl
  | some cs =>
    have hcs := h cs rfl
    have hhash : '#' ∉ cs := fun hmem => absurd (hcs '#' hmem) (by decide)
    rw [writtenQuery, splitQuery_mark hhash, percentEncode_of_keepsQuery hcs]
    rfl

/-!
Whole URLs.
-/

theorem lt_toNat_of_isPlainInScheme {c : Char} (h : isPlainInScheme c = true) :
    0x20 < c.toNat := by
  simp only [isPlainInScheme, Bool.or_eq_true, decide_eq_true_eq] at h
  rcases h with (hlower | hdigit) | hmark
  · exact Nat.lt_of_lt_of_le (by decide) (toNat_of_isLower hlower).1
  · exact Nat.lt_of_lt_of_le (by decide) (toNat_of_isDigit hdigit).1
  · have hmarks : ∀ c ∈ ['+', '-', '.'], 0x20 < c.toNat := by simp
    exact hmarks c hmark

theorem lt_toNat_of_isAllowed {c : Char} (h : Host.isAllowed c = true) :
    0x20 < c.toNat := of_decide_eq_true (Bool.and_eq_true_iff.1 h).1

theorem lt_toNat_of_keepsQuery {c : Char} (h : keepsQuery c = true) : 0x20 < c.toNat := by
  rw [keepsQuery, Bool.and_eq_true] at h
  refine lt_toNat_of_ne_space (toNat_of_keepsOpaque h.1).1 ?_
  rintro rfl
  exact absurd h.2 (by decide)

theorem not_endsAuthority_of_isAllowed {c : Char} (h : Host.isAllowed c = true) :
    (!endsAuthority .other c) = true := by
  have hends : endsAuthority .other c = (c == '/' || c == '?' || c == '#') := by
    simp [endsAuthority, isSlash]
  rw [hends, Bool.not_eq_true', Bool.or_eq_false_iff, Bool.or_eq_false_iff]
  simp only [beq_eq_false_iff_ne]
  refine ⟨⟨?_, ?_⟩, ?_⟩ <;> rintro rfl <;> exact absurd h (by decide)

theorem parseWithAuthority_of_allowed (scheme : String) {address : List Char}
    (haddress : ∀ c ∈ address, Host.isAllowed c = true) {host : Host}
    (hhost : Host.parseOpaque address = .ok host) {query : Option (List Char)}
    (hquery : ∀ cs ∈ query, ∀ c ∈ cs, keepsQuery c = true) :
    parseWithAuthority scheme .other (address ++ writtenQuery query) =
      .ok ⟨scheme, host, none, "", query.map String.ofList⟩ := by
  have hinside : ∀ c ∈ address, (!endsAuthority .other c) = true := fun c hc =>
    not_endsAuthority_of_isAllowed (haddress c hc)
  have hauthority : (address ++ writtenQuery query).takeWhile
      (!endsAuthority .other ·) = address := by
    rw [List.takeWhile_append_of_pos hinside]
    cases query with
    | none => exact List.append_nil _
    | some cs => exact List.append_nil _
  have hafter : (address ++ writtenQuery query).dropWhile
      (!endsAuthority .other ·) = writtenQuery query := by
    rw [List.dropWhile_append_of_pos hinside]
    cases query with
    | none => rfl
    | some cs => rfl
  have hother : (SchemeKind.other != SchemeKind.other) = false := rfl
  simp only [parseWithAuthority, hauthority, hafter,
    readAuthority_of_allowed scheme haddress hhost, bind, Except.bind, List.nil_append, hother,
    splitQuery_written hquery]
  rfl

/-- An address without a path is read as what is made of it for a host. -/
theorem parse_of_allowed {scheme : String} (hscheme : IsScheme scheme)
    (hkind : SchemeKind.ofScheme scheme = .other) {address : String}
    (haddress : ∀ c ∈ address.toList, Host.isAllowed c = true) {host : Host}
    (hhost : Host.parseOpaque address.toList = .ok host)
    {query : Option (List Char)} (hquery : ∀ cs ∈ query, ∀ c ∈ cs, keepsQuery c = true) :
    parse (scheme ++ "://" ++ address ++ String.ofList (writtenQuery query)) =
      .ok ⟨scheme, host, none, "", query.map String.ofList⟩ := by
  obtain ⟨c, cs, rfl, hc, hcs⟩ := hscheme
  have hcode : ∀ d ∈ c :: cs ++ ':' :: '/' :: '/' :: (address.toList ++ writtenQuery query),
      0x20 < d.toNat := by
    intro d hd
    rcases List.mem_append.1 hd with hscheme | hrest
    · rcases List.mem_cons.1 hscheme with rfl | htail
      · exact lt_toNat_of_isPlainInScheme (by simp [isPlainInScheme, hc])
      · exact lt_toNat_of_isPlainInScheme (hcs d htail)
    · simp only [List.mem_cons, List.mem_append] at hrest
      rcases hrest with rfl | rfl | rfl | hname | htail
      · decide
      · decide
      · decide
      · exact lt_toNat_of_isAllowed (haddress d hname)
      · cases query with
        | none => cases htail
        | some ds =>
          rcases List.mem_cons.1 htail with rfl | hmem
          · decide
          · exact lt_toNat_of_keepsQuery (hquery ds rfl d hmem)
  have htext : (String.ofList (c :: cs) ++ "://" ++ address ++
      String.ofList (writtenQuery query)).toList =
        c :: cs ++ ':' :: '/' :: '/' :: (address.toList ++ writtenQuery query) := by
    simp
  rw [parse, htext, significant_eq_self hcode, splitScheme?_of_plain hc hcs]
  simp only [hkind, parseOther]
  exact parseWithAuthority_of_allowed _ haddress hhost hquery

/-- A URL that is written plainly is read as it is written. -/
theorem parse_of_plain {scheme : String} (hscheme : IsScheme scheme)
    (hkind : SchemeKind.ofScheme scheme = .other) {host : Host} (hhost : host.IsOpaque)
    {query : Option (List Char)} (hquery : ∀ cs ∈ query, ∀ c ∈ cs, keepsQuery c = true) :
    parse (scheme ++ "://" ++ host.text ++ String.ofList (writtenQuery query)) =
      .ok ⟨scheme, host, none, "", query.map String.ofList⟩ :=
  parse_of_allowed hscheme hkind (fun c hc => Host.isAllowed_of_isPlain (hhost.isPlain c hc))
    hhost.parseOpaque hquery

/-!
What is read of any other URL of such a scheme.
-/

theorem scheme_parseWithAuthority {scheme : String} {kind : SchemeKind} {cs : List Char}
    {url : Url} (h : parseWithAuthority scheme kind cs = .ok url) : url.scheme = scheme := by
  simp only [parseWithAuthority, bind, Except.bind, pure, Except.pure] at h
  split at h
  · cases h
  · cases h
    rfl

theorem scheme_parseFile {scheme : String} {cs : List Char} {url : Url}
    (h : parseFile scheme cs = .ok url) : url.scheme = scheme := by
  simp only [parseFile, bind, Except.bind, pure, Except.pure] at h
  split at h
  · split at h
    · split at h
      · cases h
        rfl
      · split at h
        · cases h
        · cases h
          rfl
    · cases h
      rfl
  · cases h
    rfl

theorem parseOther_eq_ok {scheme : String} {cs : List Char} {url : Url}
    (h : parseOther scheme cs = .ok url) :
    url.scheme = scheme ∧ (url.host.IsOpaque ∨ url.host.IsAddress) := by
  unfold parseOther at h
  split at h
  · simp only [parseWithAuthority, bind, Except.bind, pure, Except.pure] at h
    split at h
    · cases h
    · next read hread =>
      cases h
      exact ⟨rfl, (readAuthority_eq_ok hread).1⟩
  · cases h
    exact ⟨rfl, .inl trivial⟩

/-- The scheme and the host of a URL are such as they are kept, whatever stands around them. -/
theorem parse_eq_ok {s : String} {url : Url} (h : parse s = .ok url)
    (hkind : SchemeKind.ofScheme url.scheme = .other) :
    IsScheme url.scheme ∧ (url.host.IsOpaque ∨ url.host.IsAddress) := by
  unfold parse at h
  split at h
  · cases h
  · next scheme rest hsplit =>
    split at h
    · next hfile =>
      rw [scheme_parseFile h, hfile] at hkind
      cases hkind
    · next hspecial =>
      rw [scheme_parseWithAuthority h, hspecial] at hkind
      cases hkind
    · obtain ⟨rfl, hhost⟩ := parseOther_eq_ok h
      exact ⟨isScheme_of_splitScheme? hsplit, hhost⟩

end Colloquy.Url
