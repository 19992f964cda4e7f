import Lox.Proofs.Expr.Regrouping
import Lox.Proofs.Grammar.Acceptance
import Lox.Proofs.Run.Ending
import Lox.Proofs.Run.Layout
import Lox.Proofs.Token.Adjacency

/-!
# Trees as texts

Every tree of the language can be written as a text, with parentheses around each operation, however
its operators bind. The text runs as the tree is evaluated: it is scanned and parsed to its end, the
tree it has is the one that was written with a grouping around each operation, and it ends with the
same value, or with the same fault at the same operation.

## Main definitions

* `Expr.WrittenAs`: the texts of a tree
* `ReadsAs`: a text with its pieces and the tree they derive
* `ReadsBack`: the run of a text, as that of a tree

## Main results

* `ReadsAs.group`, `ReadsAs.unary`, `ReadsAs.binary`: the texts of nodes from those of their operands
* `Expr.WrittenAs.readsAs`: the text of a tree derives its regrouped tree
* `run_writtenAs`: the text of a tree runs as the tree
-/

namespace Lox

/-! ## Texts of trees -/

/-- **The texts of a tree**: an operation stands in parentheses, with blanks around an infix
operator, and a leaf is a word, a string or a number. -/
inductive Expr.WrittenAs : Expr → List Char → Prop
  | true : WrittenAs (.literal (.bool true)) ['t', 'r', 'u', 'e']
  | false : WrittenAs (.literal (.bool false)) ['f', 'a', 'l', 's', 'e']
  | nil : WrittenAs (.literal .nil) ['n', 'i', 'l']
  | string {body} : (∀ c ∈ body, c ≠ '"') →
      WrittenAs (.literal (.text (String.ofList body))) ('"' :: (body ++ ['"']))
  | number {lexeme x} : Numeral lexeme → Decimal.read? (String.ofList lexeme) = some x →
      WrittenAs (.literal (.number x)) lexeme
  | grouping {inner text} :
      WrittenAs inner text → WrittenAs (.grouping inner) ('(' :: (text ++ [')']))
  | unary {kind lexeme place operand text} :
      kind ∈ prefixOperators → (lexeme, kind) ∈ symbols → WrittenAs operand text →
      WrittenAs (.unary (.ofLexeme kind lexeme place) operand) ('(' :: (lexeme ++ text ++ [')']))
  | binary {kind lexeme place left right first second} :
      kind ∈ infixOperators → (lexeme, kind) ∈ symbols → WrittenAs left first →
      WrittenAs right second →
      WrittenAs (.binary left (.ofLexeme kind lexeme place) right)
        ('(' :: (first ++ ' ' :: lexeme ++ ' ' :: second ++ [')']))

/-! ## Reading a text -/

/-- **The text reads as a tree**: before a delimiter it is munched into the pieces, whose tokens
derive the tree, apart from locations. It does not start with an equals sign. -/
structure ReadsAs (n : Nonterminal) (text : List Char) (pieces : List Piece) (tree : Expr) :
    Prop where
  head : ∃ c tail, text = c :: tail ∧ c ≠ '='
  munch {rest : List Char} : IsDelimited rest → Munch (text ++ rest) pieces rest
  derives (file : Option String) (before : List Char) :
    ∃ tree', Derives n (Piece.listing file before pieces) tree' ∧
      tree'.relocate .forget = tree.relocate .forget

/-- The token of an operator in a listing is that of a tree, apart from the location. -/
theorem Token.relocate_of_symbol {lexeme : List Char} {kind : TokenKind}
    (h : (lexeme, kind) ∈ symbols) (place place' : Location) :
    Token.relocate .forget
        { kind := kind, lexeme := some (String.ofList lexeme), location := place } =
      (Token.ofLexeme kind lexeme place').relocate .forget := by
  have hvalue : kind.valueOf lexeme = .nil := valueOf_symbol _ h
  rw [ofLexeme, hvalue]
  rfl

namespace ReadsAs

variable {n : Nonterminal} {text first second lexeme : List Char}
  {pieces before after : List Piece} {tree left right : Expr} {kind : TokenKind}

/-- A lexeme that is an operand by itself. -/
theorem leaf {value operand : Value} (h : Lexical lexeme (some (kind, value)))
    (hhead : ∀ c ∈ lexeme.head?, c ≠ '=')
    (hoperand : ∀ token : Token, token.kind = kind → token.literal = value →
      token.operand? = some operand) :
    ReadsAs .primary lexeme [⟨lexeme, some (kind, value)⟩] (.literal operand) where
  head := by
    obtain ⟨c, tail, rfl⟩ := List.exists_cons_of_ne_nil h.ne_nil
    exact ⟨c, tail, rfl, hhead c rfl⟩
  munch hrest := .cons (h.longest hrest) (.done _)
  derives file before := ⟨_, .of_operand? (hoperand _ rfl rfl), rfl⟩

/-- A keyword that is an operand by itself. -/
theorem keyword {c : Char} {tail : List Char} {operand : Value}
    (h : (String.ofList (c :: tail), kind) ∈ TokenKind.keywords) (hc : isLetter c = true)
    (htail : tail.all isWordChar = true)
    (hoperand : ∀ token : Token, token.kind = kind → token.operand? = some operand) :
    ReadsAs .primary (c :: tail) [⟨c :: tail, some (kind, .nil)⟩] (.literal operand) := by
  have hlexical : Lexical (c :: tail) (some (kind, .nil)) :=
    .word hc (List.all_eq_true.mp htail) (.inl h)
  refine .leaf hlexical ?_ fun token hkind _ => hoperand token hkind
  rintro _ ⟨rfl⟩ rfl
  exact absurd hc (by decide)

/-- What does not start with an equals sign does not start with it before any text. -/
theorem head?_ne (h : ReadsAs n text pieces tree) (more : List Char) :
    (text ++ more).head? ≠ some '=' := by
  obtain ⟨c, tail, rfl, hc⟩ := h.head
  simpa using hc

/-- **Parentheses** around what reads as a tree of any nonterminal. -/
theorem group (h : ReadsAs n text pieces tree) :
    ReadsAs .primary ('(' :: (text ++ [')']))
      (⟨['('], some (.leftParen, .nil)⟩ :: (pieces ++ [⟨[')'], some (.rightParen, .nil)⟩]))
      (.grouping tree) where
  head := ⟨'(', _, rfl, by decide⟩
  munch {rest} hrest := by
    -- from left to right: the opening parenthesis, the text, and the closing one
    have hopen : Longest (['('] ++ (text ++ ([')'] ++ rest))) ['('] (some (.leftParen, .nil)) :=
      longest_mark (by decide) (by decide) (h.head?_ne _)
    have hclose : Lexical [')'] (some (.rightParen, .nil)) := .symbol (by decide)
    have hdelimited : IsDelimited ([')'] ++ rest) := isDelimited_cons (by decide) rest
    have hmunch := Munch.cons hopen
      ((h.munch hdelimited).trans (.cons (hclose.longest hrest) (.done rest)))
    simpa using hmunch
  derives file before := by
    obtain ⟨tree', htree, heq⟩ := h.derives file (before ++ ['('])
    refine ⟨.grouping tree', ?_, by rw [Expr.relocate, Expr.relocate, heq]⟩
    show Derives .primary (_ :: Piece.listing file (before ++ ['(']) (pieces ++ [_])) _
    rw [Piece.listing_append]
    exact .group rfl htree.toExpression rfl

/-- **A prefix operator** before what reads as a primary expression. -/
theorem unary (hkind : kind ∈ prefixOperators) (hlexeme : (lexeme, kind) ∈ symbols)
    (place : Location) (h : ReadsAs .primary text pieces tree) :
    ReadsAs .unary (lexeme ++ text) (⟨lexeme, some (kind, .nil)⟩ :: pieces)
      (.unary (.ofLexeme kind lexeme place) tree) := by
  -- a prefix operator is a single character that no text continues, as none starts with `=`
  have hmarks : ∀ entry ∈ symbols, entry.2 ∈ prefixOperators →
      entry = (['!'], .bang) ∨ entry = (['-'], .minus) := by decide
  obtain ⟨c, hc, rfl⟩ : ∃ c, (c ≠ '/' ∧ c ≠ '=') ∧ lexeme = [c] := by
    rcases hmarks _ hlexeme hkind with heq | heq
    · exact ⟨'!', by decide, (Prod.mk.inj heq).1⟩
    · exact ⟨'-', by decide, (Prod.mk.inj heq).1⟩
  refine ⟨⟨c, text, rfl, hc.2⟩, fun {rest} hrest => ?_, fun file before => ?_⟩
  · have hop := longest_mark hlexeme hc.1 (h.head?_ne rest)
    exact .cons hop (h.munch hrest)
  · obtain ⟨tree', htree, heq⟩ := h.derives file (before ++ [c])
    refine ⟨.unary _ tree', .unary hkind (.primary htree), ?_⟩
    rw [Expr.relocate, Expr.relocate, heq, ← Token.relocate_of_symbol hlexeme]

/-- What reads as a tree of one nonterminal reads as one of another that derives no less. -/
theorem mono {n' : Nonterminal} (h : ReadsAs n text pieces tree)
    (hn : ∀ {tokens tree}, Derives n tokens tree → Derives n' tokens tree) :
    ReadsAs n' text pieces tree where
  head := h.head
  munch := h.munch
  derives file before := by
    obtain ⟨tree', htree, heq⟩ := h.derives file before
    exact ⟨tree', hn htree, heq⟩

/-- **A chain goes on** by an operator between blanks and an operand. -/
theorem link {level : InfixLevel} (hkind : kind ∈ level.operators)
    (hlexeme : (lexeme, kind) ∈ symbols) (place : Location)
    (hl : ReadsAs (.chain level) first before left)
    (hr : ReadsAs level.operand second after right) :
    ReadsAs (.chain level) (first ++ ' ' :: lexeme ++ ' ' :: second)
      (before ++ ⟨[' '], none⟩ :: ⟨lexeme, some (kind, .nil)⟩ :: ⟨[' '], none⟩ :: after)
      (.binary left (.ofLexeme kind lexeme place) right) where
  head := by
    obtain ⟨c, tail, rfl, hc⟩ := hl.head
    exact ⟨c, _, rfl, hc⟩
  munch {rest} hrest := by
    have hblank (text : List Char) : Longest ([' '] ++ text) [' '] none :=
      longest_layout (by decide) text
    have hdelimited (text : List Char) : IsDelimited ([' '] ++ text) :=
      isDelimited_cons (by decide) text
    have hop : Lexical lexeme (some (kind, .nil)) := .symbol hlexeme
    -- from behind: the right operand, the operator, and the left operand
    have hsecond := Munch.cons (hblank _) (hr.munch hrest)
    have hinfix := Munch.cons (hblank _) (.cons (hop.longest (hdelimited _)) hsecond)
    have hmunch := (hl.munch (hdelimited _)).trans hinfix
    simpa using hmunch
  derives file front := by
    obtain ⟨left', hleft, heql⟩ := hl.derives file front
    obtain ⟨right', hright, heqr⟩ :=
      hr.derives file (front ++ Piece.spelling before ++ [' '] ++ lexeme ++ [' '])
    let op : Token := { kind := kind, lexeme := some (String.ofList lexeme),
                        location := .endOf file (front ++ Piece.spelling before ++ [' ']) }
    refine ⟨.binary left' op right', ?_, ?_⟩
    · rw [Piece.listing_append]
      exact hleft.snoc hkind hright
    · rw [Expr.relocate, Expr.relocate, heql, heqr, ← Token.relocate_of_symbol hlexeme]

/-- **An infix operator** between blanks, between what reads as primary expressions. -/
theorem binary {level : InfixLevel} (hkind : kind ∈ level.operators)
    (hlexeme : (lexeme, kind) ∈ symbols) (place : Location)
    (hl : ReadsAs .primary first before left) (hr : ReadsAs .primary second after right) :
    ReadsAs (.chain level) (first ++ ' ' :: lexeme ++ ' ' :: second)
      (before ++ ⟨[' '], none⟩ :: ⟨lexeme, some (kind, .nil)⟩ :: ⟨[' '], none⟩ :: after)
      (.binary left (.ofLexeme kind lexeme place) right) := by
  -- a primary expression binds tighter than the operator, so it can stand on either side
  have hrank : level.rank < Nonterminal.primary.rank :=
    Nat.lt_succ_of_lt level.rank_lt_unary
  exact (hl.mono (·.loosen (Nat.le_of_lt hrank))).link hkind hlexeme place
    (hr.mono (·.toOperand hrank))

end ReadsAs

/-- **The text of a tree reads as the regrouped tree**, by induction on the tree. -/
theorem Expr.WrittenAs.readsAs {tree : Expr} {text : List Char} (h : tree.WrittenAs text) :
    ∃ pieces, ReadsAs .primary text pieces tree.regroup := by
  induction h with
  | true =>
    have hword : (String.ofList ['t', 'r', 'u', 'e'], TokenKind.kwTrue) ∈ TokenKind.keywords := by
      decide
    refine ⟨_, .keyword hword (by decide) (by decide) fun token hkind => ?_⟩
    rw [Token.operand?, hkind]
  | false =>
    have hword : (String.ofList ['f', 'a', 'l', 's', 'e'], TokenKind.kwFalse) ∈
        TokenKind.keywords := by decide
    refine ⟨_, .keyword hword (by decide) (by decide) fun token hkind => ?_⟩
    rw [Token.operand?, hkind]
  | nil =>
    have hword : (String.ofList ['n', 'i', 'l'], TokenKind.kwNil) ∈ TokenKind.keywords := by
      decide
    refine ⟨_, .keyword hword (by decide) (by decide) fun token hkind => ?_⟩
    rw [Token.operand?, hkind]
  | string hbody =>
    refine ⟨_, .leaf (.string hbody) (by simp) ?_⟩
    intro token hkind hvalue
    rw [Token.operand?, hkind, hvalue]
  | number hnumeral hread =>
    refine ⟨_, .leaf (.number hnumeral hread) ?_ ?_⟩
    · obtain ⟨c, tail, rfl, hc⟩ := hnumeral.head
      rintro _ ⟨rfl⟩ rfl
      exact absurd hc (by decide)
    · intro token hkind hvalue
      rw [Token.operand?, hkind, hvalue]
  | grouping _ ih =>
    obtain ⟨pieces, hinner⟩ := ih
    exact ⟨_, hinner.group⟩
  -- the parentheses around an operation are the groupings of the regrouped tree
  | @unary _ _ place _ _ hkind hlexeme _ ih =>
    obtain ⟨pieces, hoperand⟩ := ih
    exact ⟨_, (hoperand.unary hkind hlexeme place).group⟩
  | @binary _ _ place _ _ _ _ hkind hlexeme _ _ ihl ihr =>
    obtain ⟨before, hleft⟩ := ihl
    obtain ⟨after, hright⟩ := ihr
    obtain ⟨level, hlevel⟩ := exists_level hkind
    exact ⟨_, (hleft.binary hlevel hlexeme place hright).group⟩

/-! ## Running a text -/

/-- **The text runs as the tree is evaluated**: it is scanned, and parsed up to its end, to the tree
with a grouping around each operation; and it ends with the value of the tree, or with its fault, at
the operation where the tree fails. -/
structure ReadsBack (tree : Expr) (source : String) (file : Option String) (tokens : List Token)
    (tree' : Expr) : Prop where
  scanned : tokensOf source file = .ok tokens
  parsed : ∃ parser, parseTokens tokens = .ok (some tree', parser) ∧
    tokens.drop parser.position = [.endOfText (.endOf file source.toList)]
  regrouped : tree'.relocate .forget = tree.regroup.relocate .forget
  ends :
    (∃ v, tree.evaluate.result = .ok v ∧
        (run source file).outcome = .finished tokens tree' v) ∨
      ∃ path cause op op', tree.FailsAt path cause op ∧
        tree'.FailsAt (Expr.regroupPath path) cause op' ∧
        op'.relocate .forget = op.relocate .forget ∧
        (run source file).outcome = .evaluationFailed tokens tree' cause op'

/-- A tree with a text has no foreign node. -/
theorem Expr.WrittenAs.exists_kinds {tree : Expr} {text : List Char} (h : tree.WrittenAs text) :
    ∃ kinds, tree.kinds? = some kinds := by
  induction h with
  | true | false | nil | string | number => exact ⟨_, rfl⟩
  | grouping _ ih =>
    obtain ⟨kinds, hkinds⟩ := ih
    exact ⟨.grouping kinds, by rw [kinds?, hkinds]; rfl⟩
  | @unary kind lexeme place _ _ _ _ _ ih =>
    obtain ⟨kinds, hkinds⟩ := ih
    exact ⟨.unary (.ofLexeme kind lexeme place) kinds, by rw [kinds?, hkinds]; rfl⟩
  | @binary kind lexeme place _ _ _ _ _ _ _ _ ihl ihr =>
    obtain ⟨left, hleft⟩ := ihl
    obtain ⟨right, hright⟩ := ihr
    exact ⟨.binary left (.ofLexeme kind lexeme place) right,
      by rw [kinds?, hleft, hright]; rfl⟩

/-- **Every tree can be written as a text and run back.** -/
theorem run_writtenAs {tree : Expr} {source : String} (h : tree.WrittenAs source.toList)
    (file : Option String) : ∃ tokens tree', ReadsBack tree source file tokens tree' := by
  obtain ⟨pieces, hreads⟩ := h.readsAs
  obtain ⟨tree', htree, heq⟩ := hreads.derives file []
  have hmunch : Munch source.toList pieces [] := by
    simpa using hreads.munch isDelimited_nil
  have hscan := tokensOf_of_munch hmunch file
  have hparse := parseTokens_of_derives htree.toExpression (.endOf file source.toList)
  refine ⟨_, tree', hscan, ⟨_, hparse, by simp⟩, heq, ?_⟩
  rw [run_of_parse hscan hparse]
  -- the regrouped tree ends as the tree does, and so does the parsed one
  obtain ⟨v, hv⟩ | ⟨cause, op, hfault⟩ := Expr.evaluate_cases h.exists_kinds
  · left
    have hv' := Expr.result_of_relocate_eq .forget heq ((Expr.result_regroup tree).trans hv)
    exact ⟨v, hv, runTree_finished hv' file _⟩
  · right
    obtain ⟨path, hpath⟩ := Expr.result_eq_fault_iff.mp hfault
    obtain ⟨op', hpath', hop⟩ := hpath.regroup.of_relocate_eq .forget heq
    exact ⟨path, cause, op, op', hpath, hpath', hop, runTree_failed hpath'.result file _⟩

/-- A sum that is rejected at its plus sign, behind two operations that are not. -/
theorem run_writtenAs_rejected_sum :
    let one := Decimal.readPlain ['1']
    let place := Location.start none
    let plus := Token.ofLexeme .plus ['+'] place
    let tree := Expr.binary (.unary (.ofLexeme .minus ['-'] place) (.literal (.number one))) plus
      (.unary (.ofLexeme .bang ['!'] place) (.literal .nil))
    tree.WrittenAs "((-1) + (!nil))".toList ∧
      ∃ tokens tree' op,
        (run "((-1) + (!nil))" none).outcome =
            .evaluationFailed tokens tree' .operandsMixed op ∧
          tree'.FailsAt [.inner] .operandsMixed op ∧
          op.relocate .forget = plus.relocate .forget := by
  intro one place plus tree
  have hdigit : ∀ c ∈ ['1'], isDigit c = true := by
    intro c hc
    obtain rfl := List.mem_singleton.mp hc
    decide
  have hnumeral : Numeral ['1'] := .whole ⟨by simp, hdigit⟩
  have hone : (Expr.literal (.number one)).WrittenAs ['1'] :=
    .number hnumeral (read?_numeral hnumeral)
  have hwritten : tree.WrittenAs "((-1) + (!nil))".toList :=
    .binary (by decide) (by decide) (.unary (by decide) (by decide) hone)
      (.unary (by decide) (by decide) .nil)
  have hfails : tree.FailsAt [] .operandsMixed plus := .binary rfl rfl rfl
  obtain ⟨tokens, tree', hback⟩ := run_writtenAs hwritten none
  refine ⟨hwritten, tokens, tree', ?_⟩
  obtain ⟨v, hv, -⟩ | ⟨path, cause, op, op', hpath, hpath', hop, houtcome⟩ := hback.ends
  · exact absurd hv hfails.not_ok
  · obtain rfl := hfails.unique hpath
    obtain ⟨rfl, rfl⟩ := EvalError.fault.inj
      (Except.error.inj (hfails.result.symm.trans hpath.result))
    exact ⟨op', houtcome, hpath', hop⟩

end Lox
