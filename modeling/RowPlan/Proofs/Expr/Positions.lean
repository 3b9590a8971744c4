import RowPlan.Proofs.Expr.Scanner

/-!
# Where tokens start

Whatever the scanner reads is the beginning of the text that is left, so that a token never takes more
characters than there are. The offset that the scanner has come to therefore counts the characters
behind it: a token starts at the character of its offset, the offsets ascend, and the marker stands
behind the last character. Faults are found at an offset that the scanner has come to.
-/

namespace RowPlan.Token

/-! ## A token is the beginning of a text -/

theorem prefix_append_of_prefix_drop
    {first second text : List Char} (starts : first <+: text)
    (continues : second <+: text.drop first.length) :
    first ++ second <+: text := by
  obtain ⟨rest, rfl⟩ := starts
  rw [List.drop_left] at continues
  exact (List.prefix_append_right_inj first).2 continues

theorem markedDigits_isPrefix (mark rest : List Char) : markedDigits mark rest <+: mark ++ rest := by
  unfold markedDigits
  dsimp only
  split
  · exact List.nil_prefix
  · exact (List.prefix_append_right_inj mark).2 (List.takeWhile_prefix _)

theorem fraction_isPrefix (text : List Char) : fraction text <+: text := by
  unfold fraction
  split
  · exact markedDigits_isPrefix ['.'] _
  · exact List.nil_prefix

theorem exponent_isPrefix (text : List Char) : exponent text <+: text := by
  unfold exponent
  split
  · split
    · split
      · exact markedDigits_isPrefix [_, '+'] _
      · exact markedDigits_isPrefix [_, '-'] _
      · exact markedDigits_isPrefix [_] _
    · exact List.nil_prefix
  · exact List.nil_prefix

theorem numeral_isPrefix (text : List Char) : numeral text <+: text := by
  apply prefix_append_of_prefix_drop
  · apply prefix_append_of_prefix_drop
    · exact List.takeWhile_prefix _
    · exact fraction_isPrefix _
  · rw [List.length_append]
    exact exponent_isPrefix _

/-- The closing quote of a quoted text is in the text. -/
theorem count_le_of_quotedText?
    {quote : Char} {rest text : List Char} {count : Nat}
    (closed : quotedText? quote rest = some (text, count)) :
    count ≤ rest.length := by
  fun_induction quotedText? quote rest generalizing text count with
  | case1 => cases closed
  | case2 c rest later =>
      rcases Option.map_eq_some_iff.1 closed with ⟨⟨inner, innerCount⟩, innerClosed, same⟩
      cases same
      have inside := later innerClosed
      simp only [List.length_cons]
      omega
  | case3 rest notEscape =>
      cases closed
      simp
  | case4 c rest notEscape notQuote later =>
      rcases Option.map_eq_some_iff.1 closed with ⟨⟨inner, innerCount⟩, innerClosed, same⟩
      cases same
      exact Nat.succ_le_succ (later innerClosed)

theorem length_le_of_readSymbol
    {position : Nat} {c : Char} {text : List Char} {kind : TokenKind} {count : Nat}
    (read : readSymbol position c text = .ok (kind, count)) :
    count ≤ text.length := by
  unfold readSymbol at read
  split at read
  · rename_i spelling symbol found
    cases read
    have spelled : spelling.toList <+: text := by
      simpa using List.find?_some found
    rw [← String.length_toList]
    exact spelled.length_le
  · cases read

/-- A token takes no more characters than there are. -/
theorem count_le_of_readToken
    {position : Nat} {c : Char} {rest : List Char} {kind : TokenKind} {count : Nat}
    (read : readToken position c rest = .ok (kind, count)) :
    count ≤ (c :: rest).length := by
  unfold readToken at read
  split at read
  · dsimp only at read
    split at read
    · cases read
      exact (numeral_isPrefix _).length_le
    · cases read
  · split at read
    · unfold readQuoted at read
      split at read
      · rename_i closed
        cases read
        exact Nat.succ_le_succ (count_le_of_quotedText? closed)
      · cases read
    · split at read
      · rcases Prod.mk.inj (Except.ok.inj read) with ⟨_, rfl⟩
        exact Nat.succ_le_succ (List.takeWhile_prefix _).length_le
      · exact length_le_of_readSymbol read

/-- A fault at the start of a token is found at the offset of the token. -/
theorem position_of_readToken_eq_error
    {position found : Nat} {c : Char} {rest : List Char} {fault : SyntaxFault}
    (failed : readToken position c rest = .error (.malformed fault found)) :
    found = position := by
  unfold readToken at failed
  split at failed
  · dsimp only at failed
    split at failed <;> cases failed
  · split at failed
    · unfold readQuoted at failed
      split at failed
      · cases failed
      · cases failed
        rfl
    · split at failed
      · cases failed
      · unfold readSymbol at failed
        split at failed
        · cases failed
        · cases failed
          rfl

/-! ## The offsets of the scanner -/

/-- The scanner has passed as many characters as its offset has grown. -/
theorem Reaches.passed
    {position final : Nat} {text rest : List Char} (reached : Reaches position text final rest) :
    ∃ before, text = before ++ rest ∧ final = position + before.length := by
  induction reached with
  | here => exact ⟨[], rfl, rfl⟩
  | @blank position c rest final finalText _ _ later =>
      rcases later with ⟨before, rfl, rfl⟩
      refine ⟨c :: before, rfl, ?_⟩
      rw [List.length_cons]
      omega
  | @token position c rest kind count final finalText _ read _ later =>
      rcases later with ⟨before, left, rfl⟩
      have within := count_le_of_readToken read
      refine ⟨(c :: rest).take count ++ before, ?_, ?_⟩
      · rw [List.append_assoc, ← left, List.take_append_drop]
      · rw [List.length_append, List.length_take, Nat.min_eq_left within]
        omega

/-- A token that the scanner takes starts at the character of its offset, which is no blank. -/
theorem ReadAt.starts
    {text : List Char} {token : Token} (taken : ReadAt 0 text token) :
    ∃ c, text[token.position]? = some c ∧ Text.isBlank c = false := by
  rcases taken with ⟨c, rest, count, reached, noBlank, _⟩
  rcases reached.passed with ⟨before, rfl, position⟩
  refine ⟨c, ?_, noBlank⟩
  rw [position, Nat.zero_add]
  simp

/-- Tokens at ascending offsets, none of them before a start, and a marker at the end. -/
inductive Spans : Nat → Nat → List Token → Prop where
  | finish {start stop : Nat} : start ≤ stop → Spans start stop [⟨.finish, stop⟩]
  | token {start stop position : Nat} {kind : TokenKind} {tokens : List Token} :
      start ≤ position → kind ≠ .finish → Spans (position + 1) stop tokens →
      Spans start stop (⟨kind, position⟩ :: tokens)

theorem Spans.weaken
    {start later stop : Nat} {tokens : List Token} (spans : Spans later stop tokens)
    (notAfter : start ≤ later) :
    Spans start stop tokens := by
  cases spans with
  | finish before => exact .finish (Nat.le_trans notAfter before)
  | token before notFinish more => exact .token (Nat.le_trans notAfter before) notFinish more

theorem scanFrom_spans
    {limit position : Nat} {text : List Char} {tokens : List Token} (enough : text.length ≤ limit)
    (scanned : scanFrom limit position text = .ok tokens) :
    Spans position (position + text.length) tokens := by
  induction limit generalizing position text tokens with
  | zero =>
      cases List.length_eq_zero_iff.1 (Nat.le_zero.1 enough)
      cases scanned
      exact .finish (Nat.le_refl _)
  | succ limit later =>
      cases text with
      | nil =>
          cases scanned
          exact .finish (Nat.le_refl _)
      | cons c rest =>
          rw [scanFrom] at scanned
          split at scanned
          · have spans := later (Nat.le_of_succ_le_succ enough) scanned
            rw [Nat.add_right_comm] at spans
            exact spans.weaken (Nat.le_succ _)
          · split at scanned
            · cases scanned
            · rename_i kind count read
              rcases Outcome.map_eq_ok_iff.1 scanned with ⟨more, moreScanned, rfl⟩
              have progress := (begins_of_readToken read).count_pos
              have within := count_le_of_readToken read
              have enoughLeft : ((c :: rest).drop count).length ≤ limit := by
                rw [List.length_drop]
                omega
              have spans := later enoughLeft moreScanned
              have sameEnd :
                  position + count + ((c :: rest).drop count).length =
                    position + (c :: rest).length := by
                rw [List.length_drop]
                omega
              rw [sameEnd] at spans
              exact .token (Nat.le_refl _) (begins_of_readToken read).kind_ne_finish
                (spans.weaken (by omega))

theorem Spans.mem_ge
    {start stop : Nat} {tokens : List Token} (spans : Spans start stop tokens) :
    ∀ token ∈ tokens, start ≤ token.position := by
  induction spans with
  | finish before => simpa using before
  | token before _ _ later =>
      rw [List.forall_mem_cons]
      exact ⟨before, fun token member =>
        Nat.le_trans before (Nat.le_of_succ_le (later token member))⟩

/-- The offsets ascend. -/
theorem Spans.ascending
    {start stop : Nat} {tokens : List Token} (spans : Spans start stop tokens) :
    tokens.Pairwise fun token later => token.position < later.position := by
  induction spans with
  | finish => exact List.pairwise_singleton _ _
  | token _ _ more later => exact .cons more.mem_ge later

/-- The marker comes last, and nowhere else. -/
theorem Spans.ends
    {start stop : Nat} {tokens : List Token} (spans : Spans start stop tokens) :
    ∃ body, tokens = body ++ [⟨.finish, stop⟩] ∧ ∀ token ∈ body, token.kind ≠ .finish := by
  induction spans with
  | finish => exact ⟨[], rfl, nofun⟩
  | token _ notFinish _ later =>
      rcases later with ⟨body, rfl, noFinish⟩
      exact ⟨_ :: body, rfl, List.forall_mem_cons.2 ⟨notFinish, noFinish⟩⟩

/-- No token stands behind the marker. -/
theorem Spans.mem_le
    {start stop : Nat} {tokens : List Token} (spans : Spans start stop tokens) :
    ∀ token ∈ tokens, token.position ≤ stop := by
  rcases spans.ends with ⟨body, rfl, _⟩
  have before := (List.pairwise_append.1 spans.ascending).2.2
  intro token member
  rcases List.mem_append.1 member with inBody | isMarker
  · exact Nat.le_of_lt (before token inBody _ List.mem_cons_self)
  · cases List.mem_singleton.1 isMarker
    exact Nat.le_refl _

/-- A fault of the scanner is found where it has come to a character. -/
theorem scanFrom_eq_malformed
    {limit position found : Nat} {text : List Char} {fault : SyntaxFault}
    (stopped : scanFrom limit position text = .error (.malformed fault found)) :
    ∃ rest, Reaches position text found rest := by
  induction limit generalizing position text with
  | zero => cases stopped
  | succ limit later =>
      cases text with
      | nil => cases stopped
      | cons c rest =>
          rw [scanFrom] at stopped
          split at stopped
          · rename_i blank
            rcases later stopped with ⟨final, reached⟩
            exact ⟨final, .blank blank reached⟩
          · rename_i noBlank
            rw [Bool.not_eq_true] at noBlank
            split at stopped
            · rename_i failed
              cases stopped
              rw [position_of_readToken_eq_error failed]
              exact ⟨c :: rest, .here⟩
            · rename_i read
              rcases later (Outcome.map_eq_error_iff.1 stopped) with ⟨final, reached⟩
              exact ⟨final, .token noBlank read reached⟩

/-! ## Whole texts -/

variable {text : String}

theorem scan_spans {tokens : List Token} (scanned : scan text = .ok tokens) :
    Spans 0 text.length tokens := by
  have spans := scanFrom_spans (Nat.le_refl _) scanned
  rwa [Nat.zero_add, String.length_toList] at spans

theorem starts_of_mem_scan
    {tokens : List Token} (scanned : scan text = .ok tokens) {token : Token} (member : token ∈ tokens)
    (notFinish : token.kind ≠ .finish) :
    ∃ c, text.toList[token.position]? = some c ∧ Text.isBlank c = false :=
  ((mem_scanFrom_iff (Nat.le_refl _) scanned notFinish).1 member).starts

theorem position_le_of_scan_eq_malformed
    {fault : SyntaxFault} {position : Nat} (stopped : scan text = .error (.malformed fault position)) :
    position ≤ text.length := by
  rcases scanFrom_eq_malformed stopped with ⟨rest, reached⟩
  rcases reached.passed with ⟨before, whole, rfl⟩
  rw [← String.length_toList, whole, List.length_append]
  omega

end RowPlan.Token
