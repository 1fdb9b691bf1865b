import Colloquy.Proofs.Text.Word
import Colloquy.Script.Condition

/-!
The grammar of conditions.  The first comparison that stands between two word characters counts,
with the longest words around it; this is also what comes first if all ways to read a word, a
comparison and a word are tried in order.
-/

namespace Colloquy

namespace Comparison

/-- Told apart by the character behind it, a comparison is found where it stands. -/
theorem atFront?_append (comparison : Comparison) {back : List Char} (h : back.head? ≠ some '=') :
    atFront? (comparison.symbol.toList ++ back) = some (comparison, back) := by
  cases comparison with
  | equal => rfl
  | notEqual => rfl
  | atLeast => rfl
  | atMost => rfl
  | greater =>
      cases back with
      | nil => rfl
      | cons c rest =>
          have hc : c ≠ '=' := fun heq => h (congrArg some heq)
          simp [symbol, atFront?, hc]
  | less =>
      cases back with
      | nil => rfl
      | cons c rest =>
          have hc : c ≠ '=' := fun heq => h (congrArg some heq)
          simp [symbol, atFront?, hc]

theorem eq_append_of_atFront? {cs after : List Char} {comparison : Comparison}
    (h : atFront? cs = some (comparison, after)) : cs = comparison.symbol.toList ++ after := by
  unfold atFront? at h
  split at h <;> cases h <;> rfl

theorem head?_symbol (comparison : Comparison) :
    ∃ c rest, comparison.symbol.toList = c :: rest ∧ Text.isWord c = false := by
  cases comparison <;> exact ⟨_, _, rfl, by decide⟩

/-- All comparisons, in the order in which they are tried. -/
def ordered : List Comparison := [equal, notEqual, atLeast, atMost, greater, less]

end Comparison

namespace Condition

/-- The word that a text ends with. -/
def lastWord (cs : List Char) : List Char := (cs.reverse.takeWhile Text.isWord).reverse

/-- The word that a text begins with. -/
def firstWord (cs : List Char) : List Char := cs.takeWhile Text.isWord

/-- In a text, the comparison stands between two word characters. -/
structure Meets (text front : List Char) (comparison : Comparison) (back : List Char) : Prop where
  whole : text = front ++ (comparison.symbol.toList ++ back)
  left : ∃ c ∈ front.getLast?, Text.isWord c = true
  right : ∃ c ∈ back.head?, Text.isWord c = true

/-- What is read of a text, if the first comparison between two word characters counts. -/
inductive First (text : List Char) : Option (List Char × Comparison × List Char) → Prop where
  | missing (nowhere : ∀ front comparison back, ¬ Meets text front comparison back) :
      First text none
  | found {front : List Char} {comparison : Comparison} {back : List Char}
      (meets : Meets text front comparison back)
      (first : ∀ earlier other behind, Meets text earlier other behind →
        front.length ≤ earlier.length) :
      First text (some (lastWord front, comparison, firstWord back))

section

variable {seen rest front back : List Char} {comparison : Comparison} {c : Char}

theorem Meets.eq_of_length_eq (h : Meets (seen ++ rest) front comparison back)
    (hlength : front.length = seen.length) :
    front = seen ∧ rest = comparison.symbol.toList ++ back := by
  obtain ⟨hfront, hrest⟩ := List.append_inj h.whole hlength.symm
  exact ⟨hfront.symm, hrest⟩

theorem Meets.atFront? (h : Meets (seen ++ rest) front comparison back)
    (hlength : front.length = seen.length) :
    Comparison.atFront? rest = some (comparison, back) := by
  obtain ⟨c, hhead, hc⟩ := h.right
  rw [(h.eq_of_length_eq hlength).2]
  refine comparison.atFront?_append fun hequal => ?_
  obtain rfl : '=' = c := Option.some.inj (hequal.symm.trans hhead)
  exact absurd hc (by decide)

theorem lastWord_concat_of_word (hc : Text.isWord c = true) :
    (seen ++ [c]).reverse.takeWhile Text.isWord = c :: seen.reverse.takeWhile Text.isWord := by
  simp [hc]

theorem lastWord_concat_of_not_word (hc : Text.isWord c = false) :
    (seen ++ [c]).reverse.takeWhile Text.isWord = [] := by
  simp [hc]

theorem lastWord_ne_nil_iff :
    seen.reverse.takeWhile Text.isWord ≠ [] ↔ ∃ c ∈ seen.getLast?, Text.isWord c = true := by
  rw [← List.head?_reverse]
  cases seen.reverse with
  | nil => simp
  | cons c rest => by_cases hc : Text.isWord c = true <;> simp [hc]

/-- The scanner keeps the last word of what it has seen; no comparison that counts begins there. -/
theorem first_firstClause? (seen rest : List Char)
    (hopen : ∀ front comparison back, Meets (seen ++ rest) front comparison back →
      seen.length ≤ front.length) :
    First (seen ++ rest) (firstClause? (seen.reverse.takeWhile Text.isWord) rest) := by
  induction rest generalizing seen with
  | nil =>
      refine .missing fun front comparison back h => ?_
      obtain ⟨c, symbol, hsymbol, _⟩ := comparison.head?_symbol
      have hlength := congrArg List.length h.whole
      have hle := hopen front comparison back h
      simp only [hsymbol, List.length_append, List.length_cons, List.length_nil] at hlength
      omega
  | cons c rest ih =>
      have hsplit : seen ++ c :: rest = (seen ++ [c]) ++ rest := by simp
      -- what is left to show, once no comparison is found right here
      have hgo : (∀ front comparison back, Meets (seen ++ c :: rest) front comparison back →
          front.length ≠ seen.length) →
          First (seen ++ c :: rest)
            (firstClause? ((seen ++ [c]).reverse.takeWhile Text.isWord) rest) := by
        intro hnot
        rw [hsplit]
        refine ih (seen ++ [c]) fun front comparison back h => ?_
        rw [← hsplit] at h
        have hle := hopen front comparison back h
        have hne := hnot front comparison back h
        rw [List.length_append, List.length_singleton]
        omega
      rw [firstClause?]
      split
      · next hc =>
        rw [lastWord_concat_of_word hc] at hgo
        refine hgo fun front comparison back h hlength => ?_
        obtain ⟨d, symbol, hsymbol, hd⟩ := comparison.head?_symbol
        have hrest := (h.eq_of_length_eq hlength).2
        rw [hsymbol, List.cons_append, List.cons.injEq] at hrest
        rw [hrest.1, hd] at hc
        cases hc
      · next hc =>
        rw [lastWord_concat_of_not_word (by simpa using hc)] at hgo
        split
        · next comparison after hfront =>
          split
          · next hclause =>
            have hmeets : Meets (seen ++ c :: rest) seen comparison after :=
              ⟨by rw [Comparison.eq_append_of_atFront? hfront],
                lastWord_ne_nil_iff.mp hclause.1, (Option.any_eq_true _ _).mp hclause.2⟩
            exact .found hmeets hopen
          · next hclause =>
            refine hgo fun front other back h hlength => hclause ?_
            have hsame := h.atFront? hlength
            rw [hfront, Option.some.injEq, Prod.mk.injEq] at hsame
            rw [hsame.2, ← (h.eq_of_length_eq hlength).1]
            exact ⟨lastWord_ne_nil_iff.mpr h.left, (Option.any_eq_true _ _).mpr h.right⟩
        · next hnone =>
          refine hgo fun front other back h hlength => ?_
          rw [h.atFront? hlength] at hnone
          cases hnone

theorem First.eq_of_meets {text : List Char} {result : Option (List Char × Comparison × List Char)}
    (h : First text result) (hmeets : Meets text front comparison back)
    (hfirst : ∀ earlier other behind, Meets text earlier other behind →
      front.length ≤ earlier.length) :
    result = some (lastWord front, comparison, firstWord back) := by
  cases h with
  | missing nowhere => exact absurd hmeets (nowhere _ _ _)
  | @found front' comparison' back' meets first =>
      have hlength : front'.length = front.length :=
        Nat.le_antisymm (first _ _ _ hmeets) (hfirst _ _ _ meets)
      have htext := hmeets.whole
      rw [htext] at hmeets meets
      have hsame := (meets.atFront? hlength).symm.trans (hmeets.atFront? rfl)
      rw [Option.some.injEq, Prod.mk.injEq] at hsame
      rw [(meets.eq_of_length_eq hlength).1, hsame.1, hsame.2]

end

/-!
All ways to read a clause, tried in order.
-/

/-- The ways to begin with a word, longest first, and what follows each. -/
def words : List Char → List (List Char × List Char)
  | [] => []
  | c :: rest =>
    if Text.isWord c then
      (words rest).map (fun way => (c :: way.1, way.2)) ++ [([c], rest)]
    else []

/-- The ways to begin with a comparison and a word; what is tried first comes first. -/
def comparisons (cs : List Char) : List (Comparison × List Char) :=
  Comparison.ordered.flatMap fun comparison =>
    if comparison.symbol.toList.isPrefixOf cs then
      (words (cs.drop comparison.symbol.toList.length)).map fun way => (comparison, way.1)
    else []

/-- The ways to begin with a clause. -/
def clauses (cs : List Char) : List (List Char × Comparison × List Char) :=
  (words cs).flatMap fun way => (comparisons way.2).map fun clause => (way.1, clause)

/-- The first way to read a clause at the first place where there is one. -/
def search : List Char → Option (List Char × Comparison × List Char)
  | [] => none
  | c :: rest => (clauses (c :: rest)).head?.or (search rest)

section

variable {c : Char} {word rest : List Char}

theorem words_of_not_word (hc : Text.isWord c = false) : words (c :: rest) = [] := by
  simp [words, hc]

theorem words_of_word (hc : Text.isWord c = true) :
    (words (c :: rest)).head? =
      some (firstWord (c :: rest), (c :: rest).dropWhile Text.isWord) := by
  induction rest generalizing c with
  | nil => simp [words, hc, firstWord]
  | cons d rest ih =>
      by_cases hd : Text.isWord d = true
      · rw [words, if_pos hc, List.head?_append, List.head?_map, ih hd]
        simp [hc, hd, firstWord]
      · simp [words, hc, hd, firstWord]

theorem head?_words (cs : List Char) :
    (words cs).head? =
      if cs.head?.any Text.isWord then some (firstWord cs, cs.dropWhile Text.isWord) else none := by
  cases cs with
  | nil => rfl
  | cons c rest =>
      by_cases hc : Text.isWord c = true
      · simp [words_of_word hc, hc]
      · simp [words, hc]

theorem comparisons_of_word (hc : Text.isWord c = true) : comparisons (c :: rest) = [] := by
  refine List.flatMap_eq_nil_iff.mpr fun comparison _ => ?_
  obtain ⟨d, symbol, hsymbol, hd⟩ := comparison.head?_symbol
  have hne : d ≠ c := fun heq => by simp [heq, hc] at hd
  simp [hsymbol, hne]

/-- Behind a shorter word than the longest one, no comparison begins. -/
theorem clauses_append (hword : ∀ c ∈ word, Text.isWord c = true) (hne : word ≠ [])
    (hrest : rest.head?.any Text.isWord = false) :
    clauses (word ++ rest) = (comparisons rest).map fun clause => (word, clause) := by
  induction word with
  | nil => exact absurd rfl hne
  | cons c tail ih =>
      obtain ⟨hc, htail⟩ := List.forall_mem_cons.mp hword
      have hsplit : clauses (c :: (tail ++ rest)) =
          ((clauses (tail ++ rest)).map fun clause => (c :: clause.1, clause.2)) ++
            (comparisons (tail ++ rest)).map fun clause => ([c], clause) := by
        simp [clauses, words, hc, List.flatMap_map, List.map_flatMap, Function.comp_def]
      rw [List.cons_append, hsplit]
      cases tail with
      | nil =>
          have hnone : words rest = [] := by
            cases rest with
            | nil => rfl
            | cons d _ => exact words_of_not_word (by simpa using hrest)
          simp [clauses, hnone]
      | cons d tail =>
          have hd : Text.isWord d = true := htail d List.mem_cons_self
          rw [ih htail (List.cons_ne_nil _ _), List.cons_append, comparisons_of_word hd]
          simp

theorem head?_comparisons (cs : List Char) :
    (comparisons cs).head? =
      (Comparison.atFront? cs).bind fun (comparison, after) =>
        if after.head?.any Text.isWord then some (comparison, firstWord after) else none := by
  have hequal : Text.isWord '=' = false := by decide
  unfold Comparison.atFront?
  split
  · simp [comparisons, Comparison.ordered, Comparison.symbol, head?_words]
  · simp [comparisons, Comparison.ordered, Comparison.symbol, head?_words]
  · simp [comparisons, Comparison.ordered, Comparison.symbol, head?_words, hequal]
  · simp [comparisons, Comparison.ordered, Comparison.symbol, head?_words, hequal]
  · next rest hother =>
    have hlonger : ¬ ['='] <+: rest := fun ⟨after, happend⟩ => hother after happend.symm
    simp [comparisons, Comparison.ordered, Comparison.symbol, head?_words, hlonger]
  · next rest hother =>
    have hlonger : ¬ ['='] <+: rest := fun ⟨after, happend⟩ => hother after happend.symm
    simp [comparisons, Comparison.ordered, Comparison.symbol, head?_words, hlonger]
  · next hequal hnotEqual hatLeast hatMost hgreater hless =>
    have hnone : comparisons cs = [] := by
      refine List.flatMap_eq_nil_iff.mpr fun comparison _ => ?_
      refine if_neg fun happend => ?_
      obtain ⟨after, rfl⟩ := List.isPrefixOf_iff_prefix.mp happend
      cases comparison with
      | equal => exact hequal after rfl
      | notEqual => exact hnotEqual after rfl
      | greater => exact hgreater after rfl
      | atLeast => exact hatLeast after rfl
      | less => exact hless after rfl
      | atMost => exact hatMost after rfl
    rw [hnone]
    rfl

/-- A word that leads to no clause is passed over. -/
theorem search_append (hword : ∀ c ∈ word, Text.isWord c = true)
    (hrest : rest.head?.any Text.isWord = false) (hnone : comparisons rest = []) :
    search (word ++ rest) = search rest := by
  induction word with
  | nil => rfl
  | cons c tail ih =>
      have hclauses := clauses_append hword (List.cons_ne_nil c tail) hrest
      rw [hnone, List.map_nil, List.cons_append] at hclauses
      rw [List.cons_append, search, hclauses, List.head?_nil, Option.none_or,
        ih (List.forall_mem_cons.mp hword).2]

theorem search_of_not_word (hc : Text.isWord c = false) : search (c :: rest) = search rest := by
  rw [search, clauses, words_of_not_word hc]
  rfl

theorem search_of_found (hword : ∀ c ∈ word, Text.isWord c = true) (hne : word ≠ [])
    (hrest : rest.head?.any Text.isWord = false) {clause : Comparison × List Char}
    (hclause : (comparisons rest).head? = some clause) :
    search (word ++ rest) = some (word, clause) := by
  have hclauses := clauses_append hword hne hrest
  obtain ⟨c, tail, rfl⟩ := List.exists_cons_of_ne_nil hne
  rw [List.cons_append] at hclauses ⊢
  rw [search, hclauses, List.head?_map, hclause]
  rfl

/-- Trying all ways in order finds what the scanner finds. -/
theorem search_eq_firstClause? (word rest : List Char)
    (hword : ∀ c ∈ word, Text.isWord c = true) :
    search (word.reverse ++ rest) = firstClause? word rest := by
  have hreverse : ∀ c ∈ word.reverse, Text.isWord c = true := fun c hc =>
    hword c (List.mem_reverse.mp hc)
  induction rest generalizing word with
  | nil => exact search_append hreverse rfl rfl
  | cons c rest ih =>
      rw [firstClause?]
      split
      · next hc =>
        have hlonger : ∀ d ∈ c :: word, Text.isWord d = true := List.forall_mem_cons.mpr ⟨hc, hword⟩
        rw [← ih (c :: word) hlonger fun d hd => hlonger d (List.mem_reverse.mp hd)]
        simp
      · next hc =>
        have hc : Text.isWord c = false := by simpa using hc
        have hrest : (c :: rest).head?.any Text.isWord = false := hc
        -- what is left to show, once no clause is found behind the word
        have hgo : comparisons (c :: rest) = [] ∨ word = [] →
            search (word.reverse ++ c :: rest) = firstClause? [] rest := by
          intro hnone
          rw [← ih [] (by simp) (by simp), List.reverse_nil, List.nil_append]
          rcases hnone with hnone | rfl
          · rw [search_append hreverse hrest hnone, search_of_not_word hc]
          · exact search_of_not_word hc
        have hhead := head?_comparisons (c :: rest)
        split
        · next comparison after hfront =>
          rw [hfront, Option.bind_some] at hhead
          dsimp only at hhead
          split
          · next hclause =>
            rw [if_pos hclause.2] at hhead
            exact search_of_found hreverse (by simpa using hclause.1) hrest hhead
          · next hclause =>
            refine hgo ?_
            by_cases hne : word = []
            · exact .inr hne
            · rw [if_neg fun hafter => hclause ⟨hne, hafter⟩] at hhead
              exact .inl (List.head?_eq_none_iff.mp hhead)
        · next hnone =>
          rw [hnone, Option.bind_none] at hhead
          exact hgo (.inl (List.head?_eq_none_iff.mp hhead))

end

/-!
Conditions as they are read from any text.
-/

/-- A text that is one word. -/
structure IsWord (text : String) : Prop where
  filled : text.toList ≠ []
  word : ∀ c ∈ text.toList, Text.isWord c = true

theorem IsWord.filter {text : String} (h : IsWord text) :
    text.toList.filter (!Text.isBlank ·) = text.toList :=
  List.filter_eq_self.mpr fun c hc => by simp [Text.not_isBlank_of_isWord (h.word c hc)]

theorem filter_symbol (comparison : Comparison) :
    comparison.symbol.toList.filter (!Text.isBlank ·) = comparison.symbol.toList := by
  cases comparison <;> decide

section

variable {word rest front back : List Char} {comparison : Comparison}

theorem Meets.length_le (h : Meets (word ++ rest) front comparison back)
    (hword : ∀ c ∈ word, Text.isWord c = true) : word.length ≤ front.length := by
  rw [← Nat.not_lt]
  intro hlt
  obtain ⟨c, symbol, hsymbol, hc⟩ := comparison.head?_symbol
  have hhere : (word ++ rest)[front.length]? = some c := by
    rw [h.whole, hsymbol]
    simp
  rw [List.getElem?_append_left hlt] at hhere
  have hmem := hword c (List.mem_of_getElem? hhere)
  rw [hc] at hmem
  cases hmem

theorem lastWord_of_words (hword : ∀ c ∈ word, Text.isWord c = true) : lastWord word = word := by
  have hreverse : ∀ c ∈ word.reverse, Text.isWord c = true := fun c hc =>
    hword c (List.mem_reverse.mp hc)
  rw [lastWord, ← List.append_nil word.reverse, List.takeWhile_append_of_pos hreverse]
  simp

theorem firstWord_append (hword : ∀ c ∈ word, Text.isWord c = true)
    (hrest : ∀ c ∈ rest.head?, Text.isWord c = false) : firstWord (word ++ rest) = word := by
  rw [firstWord, List.takeWhile_append_of_pos hword]
  cases rest with
  | nil => simp
  | cons c rest => simp [hrest c rfl]

end

theorem first_clause (text : List Char) : First text (firstClause? [] text) :=
  first_firstClause? [] text fun _ _ _ _ => Nat.zero_le _

theorem parse?_of_first {raw : String} {front back : List Char} {comparison : Comparison}
    (hmeets : Meets (Text.stripBlanks raw).toList front comparison back)
    (hfirst : ∀ earlier other behind, Meets (Text.stripBlanks raw).toList earlier other behind →
      front.length ≤ earlier.length) :
    parse? raw = some ⟨String.ofList (lastWord front), comparison,
      operand (String.ofList (firstWord back))⟩ := by
  rw [parse?, (first_clause _).eq_of_meets hmeets hfirst]
  rfl

theorem exists_parse?_iff (raw : String) :
    (∃ condition, parse? raw = some condition) ↔
      ∃ front comparison back, Meets (Text.stripBlanks raw).toList front comparison back := by
  have hfirst := first_clause (Text.stripBlanks raw).toList
  rw [parse?]
  generalize (Text.stripBlanks raw).toList = text at hfirst ⊢
  generalize firstClause? [] text = result at hfirst ⊢
  cases hfirst with
  | missing nowhere => simp [nowhere]
  | found meets _ => exact ⟨fun _ => ⟨_, _, _, meets⟩, fun _ => ⟨_, rfl⟩⟩

section

variable {left right clause suffix : String} {comparison : Comparison} (hleft : IsWord left)
  (hright : IsWord right)
  (hclause : Text.stripBlanks clause = Text.stripBlanks (left ++ comparison.symbol ++ right))

include hleft hright hclause

theorem toList_stripBlanks_clause :
    (Text.stripBlanks (clause ++ suffix)).toList =
      left.toList ++ (comparison.symbol.toList ++
        (right.toList ++ (Text.stripBlanks suffix).toList)) := by
  have hstripped := congrArg String.toList hclause
  simp only [Text.toList_stripBlanks, String.toList_append, List.filter_append, hleft.filter,
    hright.filter, filter_symbol] at hstripped ⊢
  rw [hstripped]
  simp

theorem parse?_written
    (hsuffix : ∀ c ∈ (Text.stripBlanks suffix).toList.head?, Text.isWord c = false) :
    parse? (clause ++ suffix) = some ⟨left, comparison, operand right⟩ := by
  have htext : (Text.stripBlanks (clause ++ suffix)).toList = _ :=
    toList_stripBlanks_clause hleft hright hclause
  obtain ⟨c, hlast, hc⟩ : ∃ c ∈ left.toList.getLast?, Text.isWord c = true :=
    ⟨_, List.getLast?_eq_some_getLast hleft.filled,
      hleft.word _ (List.getLast_mem hleft.filled)⟩
  obtain ⟨d, tail, hhead⟩ := List.exists_cons_of_ne_nil hright.filled
  have hd : Text.isWord d = true := hright.word d (hhead ▸ List.mem_cons_self)
  have hmeets : Meets (Text.stripBlanks (clause ++ suffix)).toList left.toList comparison
      (right.toList ++ (Text.stripBlanks suffix).toList) :=
    ⟨htext, ⟨c, hlast, hc⟩, ⟨d, by rw [hhead]; rfl, hd⟩⟩
  have hread := parse?_of_first hmeets fun earlier other behind h =>
    (htext ▸ h).length_le hleft.word
  rw [hread, lastWord_of_words hleft.word, firstWord_append hright.word hsuffix,
    String.ofList_toList, String.ofList_toList]

end

/-- Blanks aside, a text is read as a condition if and only if some comparison stands between two
word characters.  The first such comparison counts, with the longest words on both sides of it,
which is what comes first if all ways to read a clause are tried in order.  So a clause is read as
it is written, wherever blanks stand in it, as long as its last word does not go on. -/
theorem parse?_reads :
    (∀ raw, let text := (Text.stripBlanks raw).toList
      (parse? raw = (search text).map fun (left, comparison, right) =>
        ⟨String.ofList left, comparison, operand (String.ofList right)⟩) ∧
      ((∃ condition, parse? raw = some condition) ↔
        ∃ front comparison back, Meets text front comparison back) ∧
      ∀ front comparison back, Meets text front comparison back →
        (∀ earlier other behind, Meets text earlier other behind →
          front.length ≤ earlier.length) →
        parse? raw = some ⟨String.ofList (lastWord front), comparison,
          operand (String.ofList (firstWord back))⟩) ∧
    ∀ left comparison right clause suffix, IsWord left → IsWord right →
      Text.stripBlanks clause = Text.stripBlanks (left ++ comparison.symbol ++ right) →
      (∀ c ∈ (Text.stripBlanks suffix).toList.head?, Text.isWord c = false) →
      parse? (clause ++ suffix) = some ⟨left, comparison, operand right⟩ := by
  constructor
  · intro raw text
    refine ⟨?_, exists_parse?_iff raw, fun front comparison back => parse?_of_first⟩
    rw [parse?, ← search_eq_firstClause? [] text (by simp), List.reverse_nil, List.nil_append]
  · intro left comparison right clause suffix hleft hright hclause hsuffix
    exact parse?_written hleft hright hclause hsuffix

/-- Two candidates: a single sign of equality is none. -/
def spreadClause : String := "a = b >\u3000= n il"

theorem parse?_reads_spread :
    Meets (Text.stripBlanks spreadClause).toList ['a', '=', 'b'] .atLeast ['n', 'i', 'l'] ∧
      parse? spreadClause = some ⟨"b", .atLeast, ""⟩ ∧
      IsWord "age" ∧ IsWord "no" ∧
      Text.stripBlanks "a g\te! = n\u00a0o" = Text.stripBlanks "age!=no" ∧
      parse? ("a g\te! = n\u00a0o" ++ " && x == y") = some ⟨"age", .notEqual, "no"⟩ := by
  have hmeets : Meets (Text.stripBlanks spreadClause).toList ['a', '=', 'b'] .atLeast
      ['n', 'i', 'l'] :=
    ⟨by decide, ⟨'b', rfl, by decide⟩, ⟨'n', rfl, by decide⟩⟩
  have hnone : ∀ place < 3, ∀ comparison ∈ Comparison.ordered,
      ¬ (((Text.stripBlanks spreadClause).toList.take place).getLast?.any Text.isWord = true ∧
        comparison.symbol.toList <+: (Text.stripBlanks spreadClause).toList.drop place) := by
    decide
  have hfirst : ∀ earlier other behind,
      Meets (Text.stripBlanks spreadClause).toList earlier other behind → 3 ≤ earlier.length := by
    intro earlier other behind h
    rw [← Nat.not_lt]
    intro hlt
    refine hnone earlier.length hlt other (by cases other <;> decide) ?_
    rw [h.whole, List.take_left, List.drop_left]
    exact ⟨(Option.any_eq_true _ _).mpr h.left, behind, rfl⟩
  have hage : IsWord "age" := ⟨by decide, List.all_eq_true.mp rfl⟩
  have hno : IsWord "no" := ⟨by decide, List.all_eq_true.mp rfl⟩
  have hclause : Text.stripBlanks "a g\te! = n\u00a0o" = Text.stripBlanks "age!=no" := by decide
  have hsuffix : ∀ c ∈ (Text.stripBlanks " && x == y").toList.head?, Text.isWord c = false := by
    intro c hc
    obtain rfl : '&' = c := Option.some.inj hc
    decide
  exact ⟨hmeets, (parse?_reads.1 _).2.2 _ _ _ hmeets hfirst, hage, hno, hclause,
    parse?_reads.2 "age" .notEqual "no" _ " && x == y" hage hno hclause hsuffix⟩

end Condition

end Colloquy
