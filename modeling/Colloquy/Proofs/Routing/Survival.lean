import Colloquy.Proofs.Routing.Payload
import Colloquy.Proofs.Url.Tail
import Colloquy.Script.Compile

/-!
Which forms can be answered with buttons.  The payload of an option button holds the form's
identifier as it is, in front of parameters that are encoded.
-/

namespace Colloquy

namespace Url.Form

theorem decode_encodePairs (pairs : List (String × String)) :
    ((Text.pieces '&' (encodePairs pairs)).filter (· ≠ [])).map decodePair = pairs := by
  have hdecode := decode_encode pairs
  rwa [decode, encode, String.toList_ofList] at hdecode

/-- Behind other characters the first pair is read together with the last of what stands there,
and the pairs after it as they are. -/
theorem exists_decode_append (front : List Char) :
    ∃ pairs last, ∀ first second,
      decode (String.ofList (front ++ '?' :: encodePairs [first, second])) =
        pairs ++ [decodePair (last ++ '?' :: encodePair first), second] := by
  obtain ⟨before, last, hpieces⟩ := Text.exists_pieces_append '&' front
  refine ⟨(before.filter (· ≠ [])).map decodePair, last, fun first second => ?_⟩
  have hampersand : '&' ∉ '?' :: encodePair first := by
    rw [List.mem_cons, not_or]
    exact ⟨by decide, ampersand_not_mem_encodePair first⟩
  have hencode : front ++ '?' :: encodePairs [first, second] =
      front ++ ('?' :: encodePair first ++ '&' :: encodePairs [second]) := rfl
  rw [decode, String.toList_ofList, hencode, hpieces _ _ hampersand, List.filter_append,
    List.map_append, List.filter_cons_of_pos (by simp), List.map_cons, decode_encodePairs]

theorem question_mem_decodePair {piece : List Char} (h : '?' ∈ piece) :
    '?' ∈ (decodePair piece).1.toList ∨ '?' ∈ (decodePair piece).2.toList :=
  (Text.mem_cutAt h (by decide)).imp question_mem_decodeChars question_mem_decodeChars

end Url.Form

namespace Routing

namespace Token

theorem param?_ofUrl (url : Url) (key : String) :
    (ofUrl url).param? key = url.queryPairs.lookup key :=
  Dict.get?_ofListFirst url.queryPairs key

/-- The payload of an option button, once it is read, tells which option of which input it is. -/
def Survives (form path : String) (position : Nat) : Prop :=
  ∃ token, parse (ofOption form path position).payload = .ok token ∧ token.scheme = .answer ∧
    token.param? inputParam = some path ∧ token.param? optionParam = some (toString position) ∧
      Text.naturalBelow? Text.positionBound (toString position) = some position

/-- The parameters of an option button. -/
def optionPairs (path : String) (position : Nat) : List (String × String) :=
  [(inputParam, path), (optionParam, toString position)]

theorem payload_ofOption (form path : String) (position : Nat) :
    (ofOption form path position).payload = Scheme.answer.name ++ "://" ++ form ++
      String.ofList ('?' :: Url.Form.encodePairs (optionPairs path position)) := by
  have hentries : (ofOption form path position).query.entries = optionPairs path position := by
    have hne : ¬ optionParam = inputParam := by decide
    have hle : ¬ optionParam < inputParam := by decide
    change Dict.insertEntry optionParam _ [(inputParam, path)] = _
    simp only [Dict.insertEntry, if_neg hne, if_neg hle]
    rfl
  have hfilled : (ofOption form path position).query.isEmpty = false := by
    rw [Dict.isEmpty, hentries]
    rfl
  rw [payload, hfilled, hentries, ← String.toList_inj]
  simp [ofOption, new, withParam, Url.Form.encode]

theorem keepsQuery_optionPairs (path : String) (position : Nat) :
    ∀ c ∈ Url.Form.encodePairs (optionPairs path position), Url.keepsQuery c = true :=
  fun _ hc => Url.Form.keepsQuery_of_mem_encodePairs hc

section

variable {address : String} (haddress : ∀ c ∈ address.toList, c ≠ '?' ∧ c ≠ '#') {d : Char}
  (hd : d = '?' ∨ d = '#')

include haddress hd

theorem parse_answer_append (ds : List Char) :
    Url.parse (Scheme.answer.name ++ "://" ++ address ++ String.ofList (d :: ds)) =
      (Url.parse (Scheme.answer.name ++ "://" ++ address ++ "?")).map
        fun url => { url with query := Url.queryOf (d :: ds) } :=
  Url.parse_append_tail Scheme.readable_answer.kept Scheme.readable_answer.kind haddress hd ds

theorem exists_bare_of_parse {ds : List Char} {url : Url}
    (h : Url.parse (Scheme.answer.name ++ "://" ++ address ++ String.ofList (d :: ds)) = .ok url) :
    ∃ bare, Url.parse (Scheme.answer.name ++ "://" ++ address ++ "?") = .ok bare ∧
      url = { bare with query := Url.queryOf (d :: ds) } := by
  rw [parse_answer_append haddress hd] at h
  cases hbare : Url.parse (Scheme.answer.name ++ "://" ++ address ++ "?") with
  | ok bare =>
      rw [hbare] at h
      exact ⟨bare, rfl, (Except.ok.inj h).symm⟩
  | error fault =>
      rw [hbare] at h
      cases h

end

/-!
An identifier without marks: it is an address, or no payload leads anywhere.
-/

section

variable {form : String}

theorem survives_of_parse {url : Url} (hmark : ∀ c ∈ form.toList, c ≠ '?' ∧ c ≠ '#')
    (hbare : Url.parse (Scheme.answer.name ++ "://" ++ form ++ "?") = .ok url) (path : String)
    {position : Nat} (hposition : position < Text.positionBound) :
    Survives form path position := by
  have hscheme : url.scheme = Scheme.answer.name :=
    Url.scheme_of_parse Scheme.readable_answer.kept Scheme.readable_answer.kind (.inl rfl) hbare
  obtain ⟨pressed, hpressed, hsame, hpairs⟩ : ∃ pressed,
      Url.parse (ofOption form path position).payload = .ok pressed ∧
        pressed.scheme = url.scheme ∧ pressed.queryPairs = optionPairs path position := by
    rw [payload_ofOption, parse_answer_append hmark (.inl rfl), hbare,
      Url.queryOf_of_keepsQuery (keepsQuery_optionPairs path position)]
    exact ⟨_, rfl, rfl, Url.Form.decode_encode _⟩
  refine ⟨ofUrl pressed, ?_, ?_, ?_, ?_, Text.naturalBelow?_toString hposition⟩
  · rw [parse, hpressed]
  · exact (congrArg Scheme.ofName (hsame.trans hscheme)).trans Scheme.readable_answer.named
  · rw [param?_ofUrl, hpairs]
    rfl
  · rw [param?_ofUrl, hpairs]
    rfl

theorem exists_url_of_survives (hmark : ∀ c ∈ form.toList, c ≠ '?' ∧ c ≠ '#') {path : String}
    {position : Nat} (h : Survives form path position) :
    ∃ url, Url.parse (Scheme.answer.name ++ "://" ++ form ++ "?") = .ok url := by
  obtain ⟨token, htoken, _⟩ := h
  obtain ⟨url, hurl, _⟩ := exists_url_of_parse htoken
  rw [payload_ofOption] at hurl
  obtain ⟨bare, hbare, _⟩ := exists_bare_of_parse hmark (.inl rfl) hurl
  exact ⟨bare, hbare⟩

end

/-!
An identifier with a question mark or a number sign: the address ends there.
-/

/-- Behind other parameters the input's path cannot be told whatever it is. -/
theorem not_lookup_inputParam (front : List Char) (position : Nat) :
    ¬ ∀ path, (Url.Form.decode (String.ofList (front ++
      '?' :: Url.Form.encodePairs (optionPairs path position)))).lookup inputParam = some path := by
  intro h
  obtain ⟨pairs, last, hdecode⟩ := Url.Form.exists_decode_append front
  simp only [optionPairs, hdecode, List.lookup_append] at h
  cases hpairs : pairs.lookup inputParam with
  | some value =>
      -- an earlier parameter of that name wins, and is one and the same for all paths
      have hempty := h ""
      have hother := h "x"
      rw [hpairs, Option.some_or] at hempty hother
      exact absurd (Option.some.inj (hempty.symm.trans hother)) (by decide)
  | none =>
      -- the second question mark has become part of the key or of the value
      have hempty := h ""
      have hpiece : '?' ∈ last ++ '?' :: Url.Form.encodePair (inputParam, "") := by simp
      have hmark := Url.Form.question_mem_decodePair hpiece
      rw [hpairs, Option.none_or, List.lookup_cons] at hempty
      split at hempty
      · next hkey =>
        rw [← eq_of_beq hkey, Option.some.inj hempty] at hmark
        exact absurd hmark (by decide)
      · have hindex : [(optionParam, toString position)].lookup inputParam = none := rfl
        rw [hindex] at hempty
        cases hempty

theorem not_survives_of_mark {front : List Char} (back : List Char) {d : Char}
    (hfront : ∀ c ∈ front, c ≠ '?' ∧ c ≠ '#') (hd : d = '?' ∨ d = '#') (position : Nat) :
    ¬ ∀ path, Survives (String.ofList (front ++ d :: back)) path position := by
  intro h
  have hread : ∀ path, ∃ query, Url.queryOf (d :: (back ++
      '?' :: Url.Form.encodePairs (optionPairs path position))) = some query ∧
        (Url.Form.decode query).lookup inputParam = some path := by
    intro path
    obtain ⟨token, htoken, _, hpath, _⟩ := h path
    obtain ⟨url, hurl, rfl⟩ := exists_url_of_parse htoken
    have htext : Scheme.answer.name ++ "://" ++ String.ofList (front ++ d :: back) ++
        String.ofList ('?' :: Url.Form.encodePairs (optionPairs path position)) =
          Scheme.answer.name ++ "://" ++ String.ofList front ++ String.ofList (d :: (back ++
            '?' :: Url.Form.encodePairs (optionPairs path position))) := by
      rw [← String.toList_inj]
      simp
    rw [payload_ofOption, htext] at hurl
    obtain ⟨bare, _, rfl⟩ := exists_bare_of_parse (by simpa using hfront) hd hurl
    rw [param?_ofUrl, Url.queryPairs] at hpath
    split at hpath
    · next query hquery => exact ⟨query, hquery, hpath⟩
    · cases hpath
  rcases Url.queryOf_append hd back with ⟨query, hsame⟩ | ⟨ahead, hquery⟩
  · obtain ⟨first, hfirst, hempty⟩ := hread ""
    obtain ⟨second, hsecond, hother⟩ := hread "x"
    rw [hsame] at hfirst hsecond
    obtain rfl := Option.some.inj (hfirst.symm.trans hsecond)
    exact absurd (Option.some.inj (hempty.symm.trans hother)) (by decide)
  · refine not_lookup_inputParam ahead position fun path => ?_
    obtain ⟨query, hfound, hpath⟩ := hread path
    rw [hquery _ (keepsQuery_optionPairs path position)] at hfound
    rwa [Option.some.inj hfound]

/-- The buttons of a form can all be pressed if and only if its identifier is an address, and one
that holds neither a question mark nor a number sign. -/
theorem survives_iff (form : String) :
    (∀ path position, position < Text.positionBound → Survives form path position) ↔
      '?' ∉ form.toList ∧ '#' ∉ form.toList ∧
        ∃ url, Url.parse (Scheme.answer.name ++ "://" ++ form ++ "?") = .ok url := by
  have hzero : 0 < Text.positionBound := by decide
  constructor
  · intro h
    cases hfind : form.toList.find? fun c => c = '?' ∨ c = '#' with
    | some d =>
        obtain ⟨hd, front, back, hform, hfront⟩ := List.find?_eq_some_iff_append.mp hfind
        have hother : ∀ c ∈ front, c ≠ '?' ∧ c ≠ '#' := by simpa using hfront
        have hmark : d = '?' ∨ d = '#' := by simpa using hd
        refine absurd (fun path => ?_) (not_survives_of_mark back hother hmark 0)
        rw [← hform, String.ofList_toList]
        exact h path 0 hzero
    | none =>
        have hmark : ∀ c ∈ form.toList, c ≠ '?' ∧ c ≠ '#' := by simpa using hfind
        exact ⟨fun hmem => (hmark _ hmem).1 rfl, fun hmem => (hmark _ hmem).2 rfl,
          exists_url_of_survives hmark (h "" 0 hzero)⟩
  · rintro ⟨hquestion, hsign, url, hbare⟩ path position hposition
    refine survives_of_parse (fun c hc => ⟨?_, ?_⟩) hbare path hposition
    · rintro rfl
      exact hquestion hc
    · rintro rfl
      exact hsign hc

/-- Two forms: the identifier of one makes no address, that of the other makes one that ends at its
number sign. -/
def markedSource : String :=
  "<html><body><nav id=\"main\"/><form id=\"my form\"/><form id=\"quiz#1\"/></body></html>"

theorem not_survives_marked :
    (Script.compile markedSource "bot").map (fun script => script.forms.map Form.id) =
        .ok ["my form", "quiz#1"] ∧
      ¬ Survives "my form" "my form/color" 0 ∧ ¬ Survives "quiz#1" "quiz#1/color" 0 := by
  refine ⟨by decide +kernel, ?_, ?_⟩
  · rintro ⟨token, htoken, _⟩
    have hrefused : (parse (ofOption "my form" "my form/color" 0).payload).toOption = none := by
      decide +kernel
    rw [htoken] at hrefused
    cases hrefused
  · rintro ⟨token, htoken, _, hpath, _⟩
    have hbare : parse (ofOption "quiz#1" "quiz#1/color" 0).payload =
        .ok ⟨.answer, "quiz", ∅⟩ := by
      decide +kernel
    obtain rfl := Except.ok.inj (hbare.symm.trans htoken)
    cases hpath

end Token

end Routing

end Colloquy
