import Mathlib.Tactic.SplitIfs
import Stencil.Json.Reader
import Stencil.Proofs.Json.Numeral

/-!
# The tokens of a document

The text that is written for a document, compact or indented, has the tokens of the document
(`Json.scan_compact`, `Json.scan_pretty`): blanks between tokens make no difference, a string is read
back from its quoted form, and a number if its numeral is.
-/

namespace Stencil

set_option autoImplicit false

namespace Quoted

/-- Texts that stand for a character between quotes: a short escape, a unit, or the character. -/
inductive Escapes (c : Char) : List Char → Prop where
  | short {e : Char} (h : shortEscape? e = some c) (hu : e ≠ 'u') : Escapes c ['\\', e]
  | unit {a b : Char} (h : unit? '0' '0' a b = some c.toNat) (hc : c.toNat < 32) :
    Escapes c ['\\', 'u', '0', '0', a, b]
  | plain (hquote : c ≠ '"') (hback : c ≠ '\\') (hc : ¬c.toNat < 32) : Escapes c [c]

theorem escapes_escape (c : Char) : Escapes c (escape c) := by
  unfold escape
  refine iteInduction (fun h => .short (by rw [h]; rfl) (by decide)) fun hquote => ?_
  refine iteInduction (fun h => .short (by rw [h]; rfl) (by decide)) fun hback => ?_
  iterate 5 refine iteInduction (fun h => .short (by rw [h]; rfl) (by decide)) fun _ => ?_
  refine iteInduction (fun hcontrol => ?_) fun hplain => .plain hquote hback hplain
  have hunit : ∀ n < 32, unit? '0' '0' (hexDigit (n / 16)) (hexDigit (n % 16)) = some n := by decide
  exact .unit (hunit _ hcontrol) hcontrol

theorem scan_short {e c : Char} (hu : e ≠ 'u') (h : shortEscape? e = some c) (cs : List Char) :
    scan ('\\' :: e :: cs) = (scan cs).cons (.char c) := by
  rw [scan, h]
  · exact fun _ _ _ _ _ he _ => hu he
  · exact fun he => hu he

theorem scan_unit {a b c d : Char} {n : Nat} (h : unit? a b c d = some n) (cs : List Char) :
    scan ('\\' :: 'u' :: a :: b :: c :: d :: cs) = (scan cs).cons (.unit n) := by
  rw [scan, h]

theorem scan_char {c : Char} (hquote : c ≠ '"') (hback : c ≠ '\\') (hc : ¬c.toNat < 32)
    (cs : List Char) : scan (c :: cs) = (scan cs).cons (.char c) := by
  rw [scan, if_neg hc]
  · exact hquote
  · exact fun h _ => hback h
  · exact fun _ _ _ _ _ h _ => hback h
  · exact fun _ h _ => hback h
  · exact fun _ _ h _ => hback h

/-- A control character is no half of a surrogate pair. -/
theorem join_unit {c : Char} (hc : c.toNat < 32) (ps : List Piece) :
    join none (.unit c.toNat :: ps) = (join none ps).map (c :: ·) := by
  have htrail : isTrail c.toNat = false := by
    simp only [isTrail, Bool.and_eq_false_iff, decide_eq_false_iff_not]
    omega
  have hlead : isLead c.toNat = false := by
    simp only [isLead, Bool.and_eq_false_iff, decide_eq_false_iff_not]
    omega
  rw [join.eq_def]
  simp [htrail, hlead]

/-- Characters are read back from between the quotes. -/
theorem scan_escaped (cs rest : List Char) :
    ∃ ps, scan (cs.flatMap escape ++ '"' :: rest) = ⟨ps, none, rest⟩ ∧ join none ps = .ok cs := by
  induction cs with
  | nil => exact ⟨[], rfl, rfl⟩
  | cons c cs ih =>
    obtain ⟨ps, hscan, hjoin⟩ := ih
    rw [List.flatMap_cons, List.append_assoc]
    have hescapes := escapes_escape c
    generalize escape c = es at hescapes
    cases hescapes with
    | short hshort hu =>
      refine ⟨.char c :: ps, ?_, ?_⟩
      · rw [List.cons_append, List.cons_append, List.nil_append, scan_short hu hshort, hscan]
        rfl
      · rw [join, hjoin]
        rfl
    | unit hunit hc =>
      refine ⟨.unit c.toNat :: ps, ?_, ?_⟩
      · simp only [List.cons_append, List.nil_append]
        rw [scan_unit hunit, hscan]
        rfl
      · rw [join_unit hc, hjoin]
        rfl
    | plain hquote hback hc =>
      refine ⟨.char c :: ps, ?_, ?_⟩
      · rw [List.cons_append, List.nil_append, scan_char hquote hback hc, hscan]
        rfl
      · rw [join, hjoin]
        rfl

end Quoted

namespace Token

/-- The token of a string. -/
abbrev ofString (s : String) : Token := .str ⟨.ok s, none⟩

/-- The token of a number. -/
abbrev ofNumber (n : Number) : Token := .num ⟨.ok n, none⟩

/-- The token of a constant. -/
abbrev ofConstant (c : Constant) : Token := .word (.ok c)

/-- A text starts with some tokens, and `rest` is the text behind them. -/
def Scans (ts : List Token) (cs rest : List Char) : Prop :=
  ∀ fuel, cs.length ≤ fuel → ∃ fuel', rest.length ≤ fuel' ∧ scanFor fuel cs = ts ++ scanFor fuel' rest

theorem Scans.refl (cs : List Char) : Scans [] cs cs :=
  fun fuel hfuel => ⟨fuel, hfuel, rfl⟩

theorem Scans.trans {ts us : List Token} {cs mid rest : List Char} (h : Scans ts cs mid)
    (h' : Scans us mid rest) : Scans (ts ++ us) cs rest := by
  intro fuel hfuel
  obtain ⟨fuel₁, hfuel₁, hts⟩ := h fuel hfuel
  obtain ⟨fuel₂, hfuel₂, hus⟩ := h' fuel₁ hfuel₁
  exact ⟨fuel₂, hfuel₂, by rw [hts, hus, List.append_assoc]⟩

/-- A token that is not broken. -/
theorem Scans.token {t : Token} {c : Char} {cs rest : List Char} (hblank : isBlank c = false)
    (hnext : next c cs = (t, rest)) (hlast : t.isLast = false) (hlen : rest.length ≤ cs.length) :
    Scans [t] (c :: cs) rest := by
  intro fuel hfuel
  cases fuel with
  | zero => cases hfuel
  | succ fuel =>
    rw [List.length_cons] at hfuel
    refine ⟨fuel, by omega, ?_⟩
    simp [scanFor, hblank, hnext, hlast]

theorem dropWhile_blanks {bs : List Char} (hb : ∀ c ∈ bs, isBlank c = true) (cs : List Char) :
    (bs ++ cs).dropWhile isBlank = cs.dropWhile isBlank := by
  induction bs with
  | nil => rfl
  | cons b bs ih =>
    rw [List.cons_append, List.dropWhile_cons, if_pos (hb b List.mem_cons_self)]
    exact ih fun c hc => hb c (List.mem_cons_of_mem b hc)

theorem Scans.blanks (bs : List Char) (hb : ∀ c ∈ bs, isBlank c = true) (cs : List Char) :
    Scans [] (bs ++ cs) cs := by
  intro fuel hfuel
  rw [List.length_append] at hfuel
  refine ⟨fuel, by omega, ?_⟩
  cases fuel with
  | zero => rfl
  | succ fuel => rw [List.nil_append, scanFor, scanFor, dropWhile_blanks hb]

theorem Scans.quoted (s : String) (rest : List Char) : Scans [ofString s] (Json.quoted s ++ rest) rest := by
  obtain ⟨ps, hscan, hjoin⟩ := Quoted.scan_escaped s.toList rest
  rw [Json.quoted, Quoted.quote, List.cons_append, List.append_assoc]
  refine .token rfl ?_ rfl ?_
  · simp only [next, ofQuoted, List.cons_append, List.nil_append]
    rw [hscan, hjoin]
    simp [Except.map]
  · simp
    omega

theorem next_numeral {c : Char} (hc : c = '-' ∨ c.isDigit = true) (cs : List Char) :
    next c cs = ofNumeral (c :: cs) := by
  unfold next
  split
  all_goals first
    | exact absurd hc (by decide)
    | rw [if_pos hc]

theorem isBlank_of_numeral {c : Char} (hc : c = '-' ∨ c.isDigit = true) : isBlank c = false := by
  simp only [isBlank, Bool.or_eq_false_iff, beq_eq_false_iff_ne]
  refine ⟨⟨⟨?_, ?_⟩, ?_⟩, ?_⟩ <;>
    rintro rfl <;> exact absurd hc (by decide)

theorem Scans.numeral {n : Number} (hn : n.ReadsBack) {rest : List Char} (hrest : Numeral.Ends rest) :
    Scans [ofNumber n] (n.text.toList ++ rest) rest := by
  obtain ⟨x, hscan, hvalue⟩ := hn
  cases htext : n.text.toList with
  | nil =>
    rw [htext] at hscan
    cases hscan
  | cons c cs =>
    rw [htext] at hscan
    have hc := Numeral.head_of_scan hscan
    rw [List.cons_append]
    refine .token (isBlank_of_numeral hc) ?_ rfl ?_
    · rw [next_numeral hc, ← List.cons_append, ofNumeral, Numeral.scan_append hrest hscan]
      dsimp only
      rw [hvalue]
    · simp

/-- A character that is a token by itself, in front of other tokens. -/
theorem Scans.mark {t : Token} {ts : List Token} {c : Char} {cs rest : List Char}
    (hblank : isBlank c = false) (hnext : next c cs = (t, cs)) (hlast : t.isLast = false)
    (h : Scans ts cs rest) : Scans (t :: ts) (c :: cs) rest :=
  (Scans.token hblank hnext hlast (Nat.le_refl _)).trans h

/-- Blanks in front of other tokens. -/
theorem Scans.gap {ts : List Token} {bs cs rest : List Char} (hb : ∀ c ∈ bs, isBlank c = true)
    (h : Scans ts cs rest) : Scans ts (bs ++ cs) rest :=
  (Scans.blanks bs hb cs).trans h

theorem Scans.whole {ts : List Token} {cs : List Char} (h : Scans ts cs []) :
    scan (String.ofList cs) = ts := by
  obtain ⟨fuel, -, hscan⟩ := h _ (Nat.le_refl _)
  have hend : scanFor fuel [] = [] := by
    cases fuel with
    | zero => rfl
    | succ fuel => rfl
  rw [scan, String.toList_ofList, hscan, hend, List.append_nil]

/-- The tokens of a text that ends in a line break. -/
theorem Scans.line {ts : List Token} {cs : List Char} (h : Scans ts (cs ++ ['\n']) ['\n']) :
    scan (String.ofList cs ++ "\n") = ts := by
  have hbreak : ∀ c ∈ ['\n'], isBlank c = true := List.forall_mem_singleton.mpr rfl
  have hwhole := (h.trans (Scans.blanks ['\n'] hbreak [])).whole
  rwa [List.append_nil, String.ofList_append] at hwhole

end Token

namespace Json

open Token (Scans ofString ofNumber ofConstant)

mutual
/-- The tokens of a document. -/
def tokens : Json → List Token
  | .null => [ofConstant .null]
  | .bool true => [ofConstant .true]
  | .bool false => [ofConstant .false]
  | .num n => [ofNumber n]
  | .str s => [ofString s]
  | .arr items => .openBracket :: itemTokens items
  | .obj fields => .openBrace :: fieldTokens fields
/-- The tokens of an array behind its bracket. -/
def itemTokens : List Json → List Token
  | [] => [.closeBracket]
  | j :: js => j.tokens ++ moreItemTokens js
/-- The tokens of an array behind one of its items. -/
def moreItemTokens : List Json → List Token
  | [] => [.closeBracket]
  | j :: js => .comma :: (j.tokens ++ moreItemTokens js)
/-- The tokens of an object behind its brace. -/
def fieldTokens : List (String × Json) → List Token
  | [] => [.closeBrace]
  | (k, j) :: fs => ofString k :: .colon :: (j.tokens ++ moreFieldTokens fs)
/-- The tokens of an object behind one of its fields. -/
def moreFieldTokens : List (String × Json) → List Token
  | [] => [.closeBrace]
  | (k, j) :: fs => .comma :: ofString k :: .colon :: (j.tokens ++ moreFieldTokens fs)
end

mutual
/-- The numbers of a document. -/
def numbers : Json → List Number
  | .num n => [n]
  | .arr items => numbersOfItems items
  | .obj fields => numbersOfFields fields
  | _ => []
/-- The numbers of some documents. -/
def numbersOfItems : List Json → List Number
  | [] => []
  | j :: js => j.numbers ++ numbersOfItems js
/-- The numbers of some fields. -/
def numbersOfFields : List (String × Json) → List Number
  | [] => []
  | (_, j) :: fs => j.numbers ++ numbersOfFields fs
end

/-- Numbers that are read back, one by one. -/
abbrev NumbersReadBack (numbers : List Number) : Prop := ∀ n ∈ numbers, n.ReadsBack

theorem numbersReadBack_of_floats {numbers : List Number}
    (h : ∀ x hx, Number.float x hx ∈ numbers → (Number.float x hx).ReadsBack) :
    NumbersReadBack numbers := by
  intro n hn
  cases n with
  | int i hi => exact Number.readsBack_int i hi
  | float x hx => exact h x hx hn

section Compact

mutual
theorem scans_compactChars : (j : Json) → NumbersReadBack j.numbers → {rest : List Char} →
    Numeral.Ends rest → Scans j.tokens (j.compactChars ++ rest) rest
  | .null, _, rest, _ => .token rfl rfl rfl (by simp; omega)
  | .bool true, _, rest, _ => .token rfl rfl rfl (by simp; omega)
  | .bool false, _, rest, _ => .token rfl rfl rfl (by simp; omega)
  | .num n, hn, rest, hrest => .numeral (hn n (by simp [numbers])) hrest
  | .str s, _, rest, _ => .quoted s rest
  | .arr items, hn, rest, _ => by
    have hitems := scans_compactItems items hn rest
    simpa [tokens, compactChars] using hitems.mark rfl rfl rfl
  | .obj fields, hn, rest, _ => by
    have hfields := scans_compactFields fields hn rest
    simpa [tokens, compactChars] using hfields.mark rfl rfl rfl
theorem scans_compactItems : (items : List Json) → NumbersReadBack (numbersOfItems items) →
    (rest : List Char) → Scans (itemTokens items) (compactItems items ++ ']' :: rest) rest
  | [], _, rest => .mark rfl rfl rfl (.refl rest)
  | [j], hn, rest => by
    obtain ⟨hj, -⟩ := List.forall_mem_append.mp hn
    have hclose : Scans [.closeBracket] (']' :: rest) rest := .mark rfl rfl rfl (.refl rest)
    exact (scans_compactChars j hj (Numeral.ends_cons (by decide))).trans hclose
  | j :: j' :: js, hn, rest => by
    obtain ⟨hj, hjs⟩ := List.forall_mem_append.mp hn
    have hmore := (scans_compactItems (j' :: js) hjs rest).mark (c := ',') rfl rfl rfl
    have hitem := (scans_compactChars j hj (Numeral.ends_cons (by decide))).trans hmore
    simpa [itemTokens, moreItemTokens, compactItems] using hitem
theorem scans_compactFields : (fields : List (String × Json)) → NumbersReadBack (numbersOfFields fields) →
    (rest : List Char) → Scans (fieldTokens fields) (compactFields fields ++ '}' :: rest) rest
  | [], _, rest => .mark rfl rfl rfl (.refl rest)
  | [(k, j)], hn, rest => by
    obtain ⟨hj, -⟩ := List.forall_mem_append.mp hn
    have hclose : Scans [.closeBrace] ('}' :: rest) rest := .mark rfl rfl rfl (.refl rest)
    have hvalue := (scans_compactChars j hj (Numeral.ends_cons (by decide))).trans hclose
    have hfield := (Scans.quoted k _).trans (hvalue.mark (c := ':') rfl rfl rfl)
    simpa [fieldTokens, moreFieldTokens, compactFields] using hfield
  | (k, j) :: (k', j') :: fs, hn, rest => by
    obtain ⟨hj, hfs⟩ := List.forall_mem_append.mp hn
    have hmore := (scans_compactFields ((k', j') :: fs) hfs rest).mark (c := ',') rfl rfl rfl
    have hvalue := (scans_compactChars j hj (Numeral.ends_cons (by decide))).trans hmore
    have hfield := (Scans.quoted k _).trans (hvalue.mark (c := ':') rfl rfl rfl)
    simpa [fieldTokens, moreFieldTokens, compactFields] using hfield
end

end Compact

section Indented

theorem isBlank_of_mem_newline {level : Nat} : ∀ c ∈ newline level, Token.isBlank c = true := by
  intro c hc
  rcases List.mem_cons.mp hc with rfl | hc
  · rfl
  · rw [List.eq_of_mem_replicate hc]
    rfl

theorem isBlank_of_mem_space : ∀ c ∈ [' '], Token.isBlank c = true :=
  List.forall_mem_singleton.mpr rfl

theorem scans_closeBracket (level : Nat) (rest : List Char) :
    Scans [.closeBracket] (newline level ++ ']' :: rest) rest :=
  .gap isBlank_of_mem_newline (.mark rfl rfl rfl (.refl rest))

theorem scans_closeBrace (level : Nat) (rest : List Char) :
    Scans [.closeBrace] (newline level ++ '}' :: rest) rest :=
  .gap isBlank_of_mem_newline (.mark rfl rfl rfl (.refl rest))

theorem ends_newline (level : Nat) (rest : List Char) : Numeral.Ends (newline level ++ rest) :=
  Numeral.ends_cons (by decide)

mutual
theorem scans_indentedChars : (j : Json) → NumbersReadBack j.numbers → (level : Nat) →
    {rest : List Char} → Numeral.Ends rest → Scans j.tokens (j.indentedChars level ++ rest) rest
  | .null, hn, _, rest, hrest => scans_compactChars .null hn hrest
  | .bool b, hn, _, rest, hrest => scans_compactChars (.bool b) hn hrest
  | .num n, hn, _, rest, hrest => scans_compactChars (.num n) hn hrest
  | .str s, hn, _, rest, hrest => scans_compactChars (.str s) hn hrest
  | .arr [], hn, _, rest, hrest => scans_compactChars (.arr []) hn hrest
  | .arr (j :: js), hn, level, rest, _ => by
    have hitems := scans_indentedItems (j :: js) hn level rest
    simpa [tokens, indentedChars] using hitems.mark rfl rfl rfl
  | .obj [], hn, _, rest, hrest => scans_compactChars (.obj []) hn hrest
  | .obj (f :: fs), hn, level, rest, _ => by
    have hfields := scans_indentedFields (f :: fs) hn level rest
    simpa [tokens, indentedChars] using hfields.mark rfl rfl rfl
theorem scans_indentedItems : (items : List Json) → NumbersReadBack (numbersOfItems items) →
    (level : Nat) → (rest : List Char) →
    Scans (itemTokens items) (indentedItems (level + 1) items ++ (newline level ++ ']' :: rest)) rest
  | [], _, level, rest => scans_closeBracket level rest
  | [j], hn, level, rest => by
    obtain ⟨hj, -⟩ := List.forall_mem_append.mp hn
    have hvalue := scans_indentedChars j hj (level + 1) (ends_newline level (']' :: rest))
    have hitem := hvalue.trans (scans_closeBracket level rest)
    have hline := hitem.gap (@isBlank_of_mem_newline (level + 1))
    simpa [itemTokens, moreItemTokens, indentedItems] using hline
  | j :: j' :: js, hn, level, rest => by
    obtain ⟨hj, hjs⟩ := List.forall_mem_append.mp hn
    have hmore := (scans_indentedItems (j' :: js) hjs level rest).mark (c := ',') rfl rfl rfl
    have hitem := (scans_indentedChars j hj (level + 1) (Numeral.ends_cons (by decide))).trans hmore
    have hline := hitem.gap (@isBlank_of_mem_newline (level + 1))
    simpa [itemTokens, moreItemTokens, indentedItems] using hline
theorem scans_indentedFields : (fields : List (String × Json)) →
    NumbersReadBack (numbersOfFields fields) → (level : Nat) → (rest : List Char) →
    Scans (fieldTokens fields) (indentedFields (level + 1) fields ++ (newline level ++ '}' :: rest)) rest
  | [], _, level, rest => scans_closeBrace level rest
  | [(k, j)], hn, level, rest => by
    obtain ⟨hj, -⟩ := List.forall_mem_append.mp hn
    have hvalue := (scans_indentedChars j hj (level + 1) (ends_newline level ('}' :: rest))).trans
      (scans_closeBrace level rest)
    have hfield := (Scans.quoted k _).trans ((hvalue.gap isBlank_of_mem_space).mark (c := ':') rfl rfl rfl)
    have hline := hfield.gap (@isBlank_of_mem_newline (level + 1))
    simpa [fieldTokens, moreFieldTokens, indentedFields] using hline
  | (k, j) :: (k', j') :: fs, hn, level, rest => by
    obtain ⟨hj, hfs⟩ := List.forall_mem_append.mp hn
    have hmore := (scans_indentedFields ((k', j') :: fs) hfs level rest).mark (c := ',') rfl rfl rfl
    have hvalue := (scans_indentedChars j hj (level + 1) (Numeral.ends_cons (by decide))).trans hmore
    have hfield := (Scans.quoted k _).trans ((hvalue.gap isBlank_of_mem_space).mark (c := ':') rfl rfl rfl)
    have hline := hfield.gap (@isBlank_of_mem_newline (level + 1))
    simpa [fieldTokens, moreFieldTokens, indentedFields] using hline
end

end Indented

/-- The compact text of a document has the tokens of the document. -/
theorem scan_compact {j : Json} (hn : NumbersReadBack j.numbers) :
    Token.scan (j.compact ++ "\n") = j.tokens :=
  (scans_compactChars j hn (Numeral.ends_cons (by decide))).line

/-- So does its indented text. -/
theorem scan_pretty {j : Json} (hn : NumbersReadBack j.numbers) :
    Token.scan (j.pretty ++ "\n") = j.tokens :=
  (scans_indentedChars j hn 0 (Numeral.ends_cons (by decide))).line

end Json

end Stencil
