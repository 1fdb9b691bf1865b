import Colloquy.Proofs.Url.Plain

/-!
What stands behind the address of a URL, from its first question mark or number sign on: only the
query is read from there.
-/

namespace Colloquy.Url

theorem takeWhile_append_cons {p : Char → Bool} {d : Char} (hd : p d = false)
    (cs ds : List Char) : (cs ++ d :: ds).takeWhile p = cs.takeWhile p := by
  induction cs with
  | nil => simp [hd]
  | cons c cs ih => simp [List.takeWhile_cons, ih]

theorem dropWhile_append_cons {p : Char → Bool} {d : Char} (hd : p d = false)
    (cs ds : List Char) : (cs ++ d :: ds).dropWhile p = cs.dropWhile p ++ d :: ds := by
  induction cs with
  | nil => simp [hd]
  | cons c cs ih =>
    rw [List.cons_append, List.dropWhile_cons, List.dropWhile_cons, ih]
    split <;> rfl

/-- The characters that count at the end of a text. -/
def ending (cs : List Char) : List Char :=
  ((cs.reverse.dropWhile isTrimmed).reverse).filter (!isIgnored ·)

theorem ending_append_cons {d : Char} (hd : 0x20 < d.toNat) (cs ds : List Char) :
    ending (cs ++ d :: ds) = cs.filter (!isIgnored ·) ++ d :: ending ds := by
  have hreverse : (cs ++ d :: ds).reverse = ds.reverse ++ d :: cs.reverse := by simp
  rw [ending, hreverse, dropWhile_append_cons (isTrimmed_eq_false hd)]
  simp [ending, isIgnored_eq_false hd]

theorem significant_cons {c : Char} (hc : 0x20 < c.toNat) (cs : List Char) :
    significant (c :: cs) = ending (c :: cs) := by
  rw [significant, List.dropWhile_cons_of_neg (by simp [isTrimmed_eq_false hc])]
  rfl

/-- The query that begins with a question mark, if the text does, as it is kept. -/
def queryOf (tail : List Char) : Option String := (splitQuery false (significant tail)).2

theorem splitQuery_append_cons {cs : List Char} (hcs : ∀ c ∈ cs, c ≠ '?' ∧ c ≠ '#')
    {d : Char} (hd : d = '?' ∨ d = '#') (ds : List Char) :
    splitQuery false (cs ++ d :: ds) = (cs, (splitQuery false (d :: ds)).2) := by
  have hmark : ∀ c ∈ cs, (!decide (c = '?')) = true := fun c hc => by simpa using (hcs c hc).1
  have hhash : ∀ c ∈ cs, (!decide (c = '#')) = true := fun c hc => by simpa using (hcs c hc).2
  have htake := List.takeWhile_eq_self_iff.2 hmark
  have hdrop := List.dropWhile_eq_nil_iff.2 hmark
  rcases hd with rfl | rfl
  · simp [splitQuery, List.takeWhile_append_of_pos hhash, List.takeWhile_append_of_pos hmark,
      List.dropWhile_append_of_pos hmark]
  · simp [splitQuery, List.takeWhile_append_of_pos hhash, htake, hdrop]

theorem parseWithAuthority_append_cons (scheme : String) {cs : List Char}
    (hcs : ∀ c ∈ cs, c ≠ '?' ∧ c ≠ '#') {d : Char} (hd : d = '?' ∨ d = '#') (ds : List Char) :
    parseWithAuthority scheme .other (cs ++ d :: ds) =
      (readAuthority scheme .other (cs.takeWhile (!endsAuthority .other ·)) false).map fun read =>
        ⟨scheme, read.host, read.port,
          (rootedPath .other (read.rest ++ cs.dropWhile (!endsAuthority .other ·))).1,
          (splitQuery false (d :: ds)).2⟩ := by
  have hstop : (!endsAuthority .other d) = false := by
    rcases hd with rfl | rfl <;> rfl
  have htake : (cs ++ d :: ds).takeWhile (!endsAuthority .other ·) =
      cs.takeWhile (!endsAuthority .other ·) := takeWhile_append_cons hstop cs ds
  have hdrop : (cs ++ d :: ds).dropWhile (!endsAuthority .other ·) =
      cs.dropWhile (!endsAuthority .other ·) ++ d :: ds := dropWhile_append_cons hstop cs ds
  have hfilled : (cs.dropWhile (!endsAuthority .other ·) ++ d :: ds).isEmpty = false := by simp
  have hother : (SchemeKind.other != SchemeKind.other) = false := rfl
  rw [parseWithAuthority, htake, hdrop, hfilled, hother]
  cases hread : readAuthority scheme .other (cs.takeWhile (!endsAuthority .other ·)) false with
  | error fault => rfl
  | ok read =>
    have hfront : ∀ c ∈ read.rest ++ cs.dropWhile (!endsAuthority .other ·),
        c ≠ '?' ∧ c ≠ '#' := by
      intro c hc
      rcases List.mem_append.1 hc with hrest | hafter
      · exact hcs c ((List.takeWhile_sublist _).subset ((readAuthority_eq_ok hread).2 c hrest))
      · exact hcs c ((List.dropWhile_sublist _).subset hafter)
    simp only [bind, Except.bind, Except.map, ← List.append_assoc,
      splitQuery_append_cons hfront hd]
    rfl

theorem significant_tail {d : Char} (hd : d = '?' ∨ d = '#') (ds : List Char) :
    significant (d :: ds) = d :: ending ds := by
  have hcode : 0x20 < d.toNat := by
    rcases hd with rfl | rfl <;> decide
  rw [significant_cons hcode]
  exact ending_append_cons hcode [] ds

theorem parse_eq_parseWithAuthority {scheme : String} (hscheme : IsScheme scheme)
    (hkind : SchemeKind.ofScheme scheme = .other) (address : String) {d : Char}
    (hd : d = '?' ∨ d = '#') (ds : List Char) :
    parse (scheme ++ "://" ++ address ++ String.ofList (d :: ds)) =
      parseWithAuthority scheme .other
        (address.toList.filter (!isIgnored ·) ++ significant (d :: ds)) := by
  obtain ⟨c, cs, rfl, hc, hcs⟩ := hscheme
  have hplain : ∀ e ∈ c :: cs, 0x20 < e.toNat := by
    intro e he
    rcases List.mem_cons.1 he with rfl | he
    · exact lt_toNat_of_isPlainInScheme (by simp [isPlainInScheme, hc])
    · exact lt_toNat_of_isPlainInScheme (hcs e he)
  have hcode : 0x20 < d.toNat := by
    rcases hd with rfl | rfl <;> decide
  have hkept : (c :: cs).filter (!isIgnored ·) = c :: cs := by
    refine List.filter_eq_self.2 fun e he => ?_
    rw [isIgnored_eq_false (hplain e he)]
    rfl
  have hslashes : [':', '/', '/'].filter (!isIgnored ·) = [':', '/', '/'] := by decide
  have htext : (String.ofList (c :: cs) ++ "://" ++ address ++ String.ofList (d :: ds)).toList =
      (c :: cs) ++ [':', '/', '/'] ++ address.toList ++ d :: ds := by
    simp
  have hsignificant : significant ((c :: cs) ++ [':', '/', '/'] ++ address.toList ++ d :: ds) =
      c :: cs ++ ':' :: '/' :: '/' :: (address.toList.filter (!isIgnored ·) ++
        significant (d :: ds)) := by
    have hfirst := significant_cons (hplain c List.mem_cons_self)
      (cs ++ [':', '/', '/'] ++ address.toList ++ d :: ds)
    simp only [List.cons_append] at hfirst ⊢
    rw [hfirst, ← List.cons_append, ending_append_cons hcode, significant_tail hd]
    simp only [← List.cons_append, List.filter_append, hkept, hslashes, List.append_assoc]
    rfl
  rw [parse, htext, hsignificant, splitScheme?_of_plain hc hcs]
  simp only [hkind, parseOther]

/-- What stands behind an address decides on nothing but the query. -/
theorem parse_append_tail {scheme address : String} (hscheme : IsScheme scheme)
    (hkind : SchemeKind.ofScheme scheme = .other)
    (haddress : ∀ c ∈ address.toList, c ≠ '?' ∧ c ≠ '#') {d : Char} (hd : d = '?' ∨ d = '#')
    (ds : List Char) :
    parse (scheme ++ "://" ++ address ++ String.ofList (d :: ds)) =
      (parse (scheme ++ "://" ++ address ++ "?")).map
        fun url => { url with query := queryOf (d :: ds) } := by
  have hkept : ∀ c ∈ address.toList.filter (!isIgnored ·), c ≠ '?' ∧ c ≠ '#' := fun c hc =>
    haddress c (List.mem_filter.1 hc).1
  have hbare := parse_eq_parseWithAuthority hscheme hkind address (.inl rfl) []
  have hmark : "?" = String.ofList ['?'] := rfl
  rw [hmark, hbare, parse_eq_parseWithAuthority hscheme hkind address hd ds, queryOf,
    significant_tail hd, significant_tail (.inl rfl),
    parseWithAuthority_append_cons scheme hkept hd,
    parseWithAuthority_append_cons scheme hkept (.inl rfl)]
  cases readAuthority scheme .other ((address.toList.filter (!isIgnored ·)).takeWhile
    (!endsAuthority .other ·)) false with
  | error fault => rfl
  | ok read => rfl

theorem scheme_of_parse {scheme address : String} (hscheme : IsScheme scheme)
    (hkind : SchemeKind.ofScheme scheme = .other) {d : Char} (hd : d = '?' ∨ d = '#')
    {ds : List Char} {url : Url}
    (h : parse (scheme ++ "://" ++ address ++ String.ofList (d :: ds)) = .ok url) :
    url.scheme = scheme := by
  rw [parse_eq_parseWithAuthority hscheme hkind address hd] at h
  exact scheme_parseWithAuthority h

theorem significant_of_keepsQuery {cs : List Char} (h : ∀ c ∈ cs, keepsQuery c = true) :
    significant cs = cs :=
  significant_eq_self fun c hc => lt_toNat_of_keepsQuery (h c hc)

theorem queryOf_of_keepsQuery {cs : List Char} (h : ∀ c ∈ cs, keepsQuery c = true) :
    queryOf ('?' :: cs) = some (String.ofList cs) := by
  have hquery : splitQuery false (writtenQuery (some cs)) = ([], some (String.ofList cs)) :=
    splitQuery_written fun ds hds => by
      obtain rfl := Option.mem_some.1 hds
      exact h
  have hall : ∀ c ∈ '?' :: cs, keepsQuery c = true := List.forall_mem_cons.2 ⟨by decide, h⟩
  rw [queryOf, significant_of_keepsQuery hall]
  exact congrArg Prod.snd hquery

theorem splitQuery_append_hash (special : Bool) (cs ds : List Char) :
    splitQuery special (cs ++ '#' :: ds) = splitQuery special cs := by
  have htake : (cs ++ '#' :: ds).takeWhile (· ≠ '#') = cs.takeWhile (· ≠ '#') :=
    takeWhile_append_cons (by decide) cs ds
  simp only [splitQuery, htake]

/-- A question mark behind the first one belongs to the query, with all that follows it, unless it
stands behind a number sign. -/
theorem queryOf_append {d : Char} (hd : d = '?' ∨ d = '#') (cs : List Char) :
    (∃ query, ∀ ds, queryOf (d :: (cs ++ '?' :: ds)) = query) ∨
      ∃ front, ∀ ds, (∀ c ∈ ds, keepsQuery c = true) →
        queryOf (d :: (cs ++ '?' :: ds)) = some (String.ofList (front ++ '?' :: ds)) := by
  have hkept : ∀ ds, significant (d :: (cs ++ '?' :: ds)) =
      d :: (cs.filter (!isIgnored ·) ++ '?' :: ending ds) := by
    intro ds
    rw [significant_tail hd, ending_append_cons (by decide)]
  simp only [queryOf, hkept]
  generalize cs.filter (!isIgnored ·) = kept
  rcases hd with rfl | rfl
  · by_cases hhash : '#' ∈ kept
    · obtain ⟨front, back, rfl⟩ := List.append_of_mem hhash
      refine .inl ⟨(splitQuery false ('?' :: front)).2, fun ds => ?_⟩
      have hcut := splitQuery_append_hash false ('?' :: front) (back ++ '?' :: ending ds)
      simpa using congrArg Prod.snd hcut
    · refine .inr ⟨percentEncode keepsQuery kept, fun ds hds => ?_⟩
      have hall : ∀ c ∈ '?' :: ds, keepsQuery c = true := List.forall_mem_cons.2 ⟨by decide, hds⟩
      have hending : ending ds = ds := by
        have hsame := significant_of_keepsQuery hall
        rw [significant_tail (.inl rfl)] at hsame
        exact (List.cons.inj hsame).2
      have hnone : '#' ∉ kept ++ '?' :: ds := by
        simp only [List.mem_append, List.mem_cons, not_or]
        refine ⟨hhash, by decide, fun hmem => ?_⟩
        exact absurd (hds '#' hmem) (by decide)
      rw [hending, splitQuery_mark hnone, percentEncode_append, percentEncode_of_keepsQuery hall]
  · refine .inl ⟨(splitQuery false []).2, fun ds => ?_⟩
    exact congrArg Prod.snd (splitQuery_append_hash false [] _)

end Colloquy.Url
