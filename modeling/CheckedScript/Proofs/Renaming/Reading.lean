import CheckedScript.Proofs.Reader.Sentences
import CheckedScript.Proofs.Renaming.Trees

/-!
# Reading renamed tokens

The grammar looks at the kinds of tokens and at the constants of literals.  So whatever is
derived for some tokens is derived, up to names, for the renamed tokens.
-/

namespace CheckedScript

namespace Grammar

open Reader (Tier)

variable (naming : Naming)

/-- Wherever some tokens form a phrase, the renamed tokens form a phrase of the same kind,
and what the two stand for belongs together. -/
def Renames {α : Type} (phrase : List Token → α → Prop) (alike : α → α → Prop)
    (tokens : List Token) (value : α) : Prop :=
  ∀ others, List.Forall₂ naming.tokens tokens others →
    ∃ other, phrase others other ∧ alike value other

variable {naming}

/-- A phrase of one kind may be a phrase of another kind. -/
theorem Renames.imp {α : Type} {phrase wider : List Token → α → Prop} {alike : α → α → Prop}
    {tokens : List Token} {value : α} (renames : Renames naming phrase alike tokens value)
    (implies : ∀ {tokens value}, phrase tokens value → wider tokens value) :
    Renames naming wider alike tokens value := by
  intro others related
  obtain ⟨other, derived, same⟩ := renames others related
  exact ⟨other, implies derived, same⟩

section Parts

/-- What is related to two lists in a row falls into two such parts. -/
theorem exists_append_of_forall₂ {first second others : List Token}
    (related : List.Forall₂ naming.tokens (first ++ second) others) :
    ∃ front back, List.Forall₂ naming.tokens first front ∧
      List.Forall₂ naming.tokens second back ∧ others = front ++ back := by
  induction first generalizing others with
  | nil => exact ⟨[], others, .nil, related, rfl⟩
  | cons token first inductionHypothesis =>
      cases related with
      | @cons _ other _ others here related =>
          obtain ⟨front, back, firsts, seconds, rfl⟩ := inductionHypothesis related
          exact ⟨other :: front, back, .cons here firsts, seconds, rfl⟩

/-- What is related to lists with a token between them has such a token between its parts. -/
theorem exists_around {first second others : List Token} {token : Token}
    (related : List.Forall₂ naming.tokens (first ++ token :: second) others) :
    ∃ front mark back, others = front ++ mark :: back ∧ List.Forall₂ naming.tokens first front ∧
      naming.tokens token mark ∧ List.Forall₂ naming.tokens second back := by
  obtain ⟨front, _, firsts, _ | ⟨here, rest⟩, rfl⟩ := exists_append_of_forall₂ related
  exact ⟨front, _, _, rfl, firsts, here, rest⟩

/-- What is related to tokens between two others stands between two others. -/
theorem exists_enclosed {opening closing : Token} {tokens others : List Token}
    (related : List.Forall₂ naming.tokens (opening :: tokens ++ [closing]) others) :
    ∃ first inner last, others = first :: inner ++ [last] ∧ naming.tokens opening first ∧
      List.Forall₂ naming.tokens tokens inner ∧ naming.tokens closing last := by
  obtain _ | ⟨opens, rest⟩ := related
  obtain ⟨inner, last, _, rfl, within, closes, _ | _⟩ := exists_around rest
  exact ⟨_, inner, last, rfl, opens, within, closes⟩

end Parts

theorem kind_of_tokens {token other : Token} {kind : Kind} (related : naming.tokens token other)
    (same : token.kind = kind) : other.kind = kind :=
  (naming.kind related).symm.trans same

theorem constant?_renamed {token other : Token} (related : naming.tokens token other) :
    Reader.constant? other = Reader.constant? token := by
  unfold Reader.constant?
  rw [naming.kind related, naming.payload related]

theorem innerOperator_renamed {tier : Tier} {kind : Kind} {token other : Token}
    {node : Token → Expr → Expr → Expr} {left right first second : Expr}
    (inner : InnerOperator tier kind node) (related : naming.tokens token other)
    (lefts : left.Renamed naming first) (rights : right.Renamed naming second) :
    (node token left right).Renamed naming (node other first second) := by
  cases inner with
  | disjunction | conjunction => exact .logical related lefts rights
  | _ => exact .binary related lefts rights

section Separated

variable {α : Type} {phrase : List Token → α → Prop} {alike : α → α → Prop}

theorem Renames.one {tokens : List Token} {value : α}
    (renames : Renames naming phrase alike tokens value) :
    Renames naming (Separated phrase) (List.Forall₂ alike) tokens [value] := by
  intro others related
  obtain ⟨other, derived, same⟩ := renames others related
  exact ⟨[other], .one derived, .cons same .nil⟩

theorem Renames.more {tokens following : List Token} {comma : Token} {value : α} {values : List α}
    (isComma : comma.kind = .symbol .comma) (renames : Renames naming phrase alike tokens value)
    (renamesRest : Renames naming (Separated phrase) (List.Forall₂ alike) following values) :
    Renames naming (Separated phrase) (List.Forall₂ alike) (tokens ++ comma :: following)
      (value :: values) := by
  intro others related
  obtain ⟨front, comma, back, rfl, firsts, here, rest⟩ := exists_around related
  obtain ⟨other, derived, same⟩ := renames _ firsts
  obtain ⟨further, derivedRest, sameRest⟩ := renamesRest _ rest
  exact ⟨other :: further, .more derived (kind_of_tokens here isComma) derivedRest,
    .cons same sameRest⟩

theorem Separated.renames {tokens : List Token} {values : List α}
    (separated : Separated phrase tokens values)
    (renames : ∀ tokens value, phrase tokens value → Renames naming phrase alike tokens value) :
    Renames naming (Separated phrase) (List.Forall₂ alike) tokens values := by
  induction separated with
  | one derived => exact (renames _ _ derived).one
  | more derived isComma _ inductionHypothesis =>
      exact (renames _ _ derived).more isComma inductionHypothesis

end Separated

section Expressions

/-- By induction on the derivation of the expression. -/
theorem Expression.renames {tokens : List Token} {value : Expr}
    (derived : Expression tokens value) :
    Renames naming Expression (Expr.Renamed naming) tokens value := by
  refine @Expression.rec
    (fun tokens value _ => Renames naming Expression (Expr.Renamed naming) tokens value)
    (fun tier tokens value _ => Renames naming (Infix tier) (Expr.Renamed naming) tokens value)
    (fun tier tokens value _ => Renames naming (Operand tier) (Expr.Renamed naming) tokens value)
    (fun tokens value _ => Renames naming Unary (Expr.Renamed naming) tokens value)
    (fun tokens value _ => Renames naming Call (Expr.Renamed naming) tokens value)
    (fun tokens value _ => Renames naming Primary (Expr.Renamed naming) tokens value)
    (fun tokens values _ => Renames naming (Separated Expression)
      (List.Forall₂ (Expr.Renamed naming)) tokens values)
    ?assign (fun _ renames => renames.imp .plain) (fun _ renames => renames.imp .first) ?next
    (fun tighter _ renames => renames.imp (.tighter tighter))
    (fun tightest _ renames => renames.imp (.unary tightest)) ?operator
    (fun _ renames => renames.imp .call) (fun _ renames => renames.imp .primary) ?empty ?arguments
    ?literal ?reference ?unit ?group ?tuple (fun _ renames => renames.one)
    (fun _ isComma _ renames renamesRest => renames.more isComma renamesRest) _ _ derived
  case assign =>
    rintro name equals tokens value isName isEqual - renames _
      (_ | ⟨named, _ | ⟨marks, rest⟩⟩)
    obtain ⟨other, derived, same⟩ := renames _ rest
    exact ⟨_, .assign (kind_of_tokens named isName) (kind_of_tokens marks isEqual) derived,
      .assign ⟨named, isName⟩ same⟩
  case next =>
    intro tier before after token left right node _ inner _ renamesLeft renamesRight others related
    obtain ⟨front, mark, back, rfl, firsts, here, rest⟩ := exists_around related
    obtain ⟨first, derivedFirst, sameFirst⟩ := renamesLeft _ firsts
    obtain ⟨second, derivedSecond, sameSecond⟩ := renamesRight _ rest
    exact ⟨_, .next derivedFirst (naming.kind here ▸ inner) derivedSecond,
      innerOperator_renamed inner here sameFirst sameSecond⟩
  case operator =>
    rintro token tokens operator operand outer - renames _ (_ | ⟨here, rest⟩)
    obtain ⟨other, derived, same⟩ := renames _ rest
    exact ⟨_, .operator (naming.kind here ▸ outer) derived, .unary here same⟩
  case empty =>
    intro tokens opening closing callee _ opens closes renames others related
    obtain ⟨front, mark, _, rfl, firsts, first, _ | ⟨last, _ | _⟩⟩ := exists_around related
    obtain ⟨other, derived, same⟩ := renames _ firsts
    exact ⟨_, .empty derived (kind_of_tokens first opens) (kind_of_tokens last closes),
      .call same last .nil⟩
  case arguments =>
    intro tokens items opening closing callee values _ opens _ closes renames renamesItems others
      related
    rw [List.append_assoc] at related
    obtain ⟨front, _, firsts, rest, rfl⟩ := exists_append_of_forall₂ related
    obtain ⟨_, inner, _, rfl, first, within, last⟩ := exists_enclosed rest
    obtain ⟨other, derived, same⟩ := renames _ firsts
    obtain ⟨further, derivedItems, sameItems⟩ := renamesItems _ within
    refine ⟨_, ?_, .call same last sameItems⟩
    rw [← List.append_assoc]
    exact .arguments derived (kind_of_tokens first opens) derivedItems
      (kind_of_tokens last closes)
  case literal =>
    rintro token value isLiteral found _ (_ | ⟨here, _ | _⟩)
    exact ⟨_, .literal (naming.kind here ▸ isLiteral) ((constant?_renamed here).trans found),
      .literal here⟩
  case reference =>
    rintro name isName _ (_ | ⟨here, _ | _⟩)
    exact ⟨_, .reference (kind_of_tokens here isName), .reference ⟨here, isName⟩⟩
  case unit =>
    rintro opening closing opens closes _ (_ | ⟨first, _ | ⟨last, _ | _⟩⟩)
    exact ⟨_, .unit (kind_of_tokens first opens) (kind_of_tokens last closes), .tuple .nil⟩
  case group =>
    intro opening closing tokens value opens _ closes renames others related
    obtain ⟨_, inner, _, rfl, first, within, last⟩ := exists_enclosed related
    obtain ⟨other, derived, same⟩ := renames _ within
    exact ⟨_, .group (kind_of_tokens first opens) derived (kind_of_tokens last closes),
      .group same⟩
  case tuple =>
    intro opening comma closing tokens following value values opens _ isComma _ closes renames
      renamesRest others related
    have regrouped : opening :: tokens ++ comma :: following ++ [closing] =
        opening :: (tokens ++ comma :: following) ++ [closing] := rfl
    rw [regrouped] at related
    obtain ⟨_, _, _, rfl, first, within, last⟩ := exists_enclosed related
    obtain ⟨front, _, _, rfl, firsts, here, rest⟩ := exists_around within
    obtain ⟨other, derived, same⟩ := renames _ firsts
    obtain ⟨further, derivedRest, sameRest⟩ := renamesRest _ rest
    exact ⟨_, .tuple (kind_of_tokens first opens) derived (kind_of_tokens here isComma)
      derivedRest (kind_of_tokens last closes), .tuple (.cons same sameRest)⟩

end Expressions

/-- A written type is the same type in the renamed tokens. -/
theorem TypePhrase.renames {tokens : List Token} {type : WrittenType}
    (derived : TypePhrase tokens type) : Renames naming TypePhrase Eq tokens type := by
  refine @TypePhrase.rec
    (fun tokens type _ => Renames naming TypePhrase Eq tokens type)
    (fun tokens types _ => Renames naming (Separated TypePhrase) (List.Forall₂ Eq) tokens types)
    ?number ?text ?bool ?unit ?parenthesized ?tuple (fun _ renames => renames.one)
    (fun _ isComma _ renames renamesRest => renames.more isComma renamesRest) _ _ derived
  case number =>
    rintro token isNumber _ (_ | ⟨here, _ | _⟩)
    exact ⟨_, .number (kind_of_tokens here isNumber), rfl⟩
  case text =>
    rintro token isText _ (_ | ⟨here, _ | _⟩)
    exact ⟨_, .text (kind_of_tokens here isText), rfl⟩
  case bool =>
    rintro token isBool _ (_ | ⟨here, _ | _⟩)
    exact ⟨_, .bool (kind_of_tokens here isBool), rfl⟩
  case unit =>
    rintro opening closing opens closes _ (_ | ⟨first, _ | ⟨last, _ | _⟩⟩)
    exact ⟨_, .unit (kind_of_tokens first opens) (kind_of_tokens last closes), rfl⟩
  case parenthesized =>
    intro opening closing tokens type opens _ closes renames others related
    obtain ⟨_, inner, _, rfl, first, within, last⟩ := exists_enclosed related
    obtain ⟨_, derived, rfl⟩ := renames _ within
    exact ⟨_, .parenthesized (kind_of_tokens first opens) derived (kind_of_tokens last closes), rfl⟩
  case tuple =>
    intro opening comma closing tokens following type types opens _ isComma _ closes renames
      renamesRest others related
    have regrouped : opening :: tokens ++ comma :: following ++ [closing] =
        opening :: (tokens ++ comma :: following) ++ [closing] := rfl
    rw [regrouped] at related
    obtain ⟨_, _, _, rfl, first, within, last⟩ := exists_enclosed related
    obtain ⟨front, _, _, rfl, firsts, here, rest⟩ := exists_around within
    obtain ⟨_, derived, rfl⟩ := renames _ firsts
    obtain ⟨_, derivedRest, same⟩ := renamesRest _ rest
    rw [List.forall₂_eq_eq_eq] at same
    subst same
    exact ⟨_, .tuple (kind_of_tokens first opens) derived (kind_of_tokens here isComma)
      derivedRest (kind_of_tokens last closes), rfl⟩

theorem Parameters.renames {tokens names : List Token} (derived : Parameters tokens names) :
    Renames naming Parameters (List.Forall₂ (Token.NameRenamed naming)) tokens names := by
  cases derived with
  | empty opens closes =>
      rintro _ (_ | ⟨first, _ | ⟨last, _ | _⟩⟩)
      exact ⟨[], .empty (kind_of_tokens first opens) (kind_of_tokens last closes), .nil⟩
  | names opens separated closes =>
      intro others related
      obtain ⟨_, inner, _, rfl, first, within, last⟩ := exists_enclosed related
      have renames : ∀ tokens name, Name tokens name →
          Renames naming Name (Token.NameRenamed naming) tokens name := by
        rintro _ name ⟨rfl, isName⟩ _ (_ | ⟨here, _ | _⟩)
        exact ⟨_, ⟨rfl, kind_of_tokens here isName⟩, here, isName⟩
      obtain ⟨_, derived, same⟩ := separated.renames renames _ within
      exact ⟨_, .names (kind_of_tokens first opens) derived (kind_of_tokens last closes), same⟩

theorem Range.renames {tokens : List Token} {bounds : Bounds} (derived : Range tokens bounds) :
    Renames naming Range (Bounds.Renamed naming) tokens bounds := by
  cases derived with
  | between start isDots stop =>
      intro others related
      obtain ⟨front, mark, back, rfl, firsts, here, rest⟩ := exists_around related
      obtain ⟨_, starts, sameStart⟩ := start.renames _ firsts
      obtain ⟨_, stops, sameStop⟩ := stop.renames _ rest
      exact ⟨_, .between starts (kind_of_tokens here isDots) stops, here, sameStart, sameStop,
        .none⟩
  | stepped start isDots step alsoDots stop =>
      intro others related
      obtain ⟨_, mark, back, rfl, before, there, rest⟩ := exists_around related
      obtain ⟨front, _, middle, rfl, firsts, here, seconds⟩ := exists_around before
      obtain ⟨_, starts, sameStart⟩ := start.renames _ firsts
      obtain ⟨_, steps, sameStep⟩ := step.renames _ seconds
      obtain ⟨_, stops, sameStop⟩ := stop.renames _ rest
      exact ⟨_, .stepped starts (kind_of_tokens here isDots) steps
        (kind_of_tokens there alsoDots) stops, here, sameStart, sameStop, .some sameStep⟩

section Statements

mutual

theorem Statement.renames {tokens : List Token} {stmt : Stmt} :
    Statement tokens stmt → Renames naming Statement (Stmt.Renamed naming) tokens stmt
  | .letPlain isLet isName isEqual initial isEnd => by
      rintro _ (_ | ⟨keyword, _ | ⟨named, _ | ⟨equals, rest⟩⟩⟩)
      obtain ⟨inner, mark, _, rfl, within, ends, _ | _⟩ := exists_around rest
      obtain ⟨_, derived, same⟩ := initial.renames _ within
      exact ⟨_, .letPlain (kind_of_tokens keyword isLet) (kind_of_tokens named isName)
        (kind_of_tokens equals isEqual) derived (kind_of_tokens ends isEnd),
        .letValue ⟨named, isName⟩ same⟩
  | .letTyped isLet isName isColon typed isEqual initial isEnd => by
      rintro _ (_ | ⟨keyword, _ | ⟨named, _ | ⟨colon, rest⟩⟩⟩)
      obtain ⟨_, mark, _, rfl, before, ends, _ | _⟩ := exists_around rest
      obtain ⟨_, equal, inner, rfl, types, equals, within⟩ := exists_around before
      obtain ⟨_, written, rfl⟩ := typed.renames _ types
      obtain ⟨_, derived, same⟩ := initial.renames _ within
      exact ⟨_, .letTyped (kind_of_tokens keyword isLet) (kind_of_tokens named isName)
        (kind_of_tokens colon isColon) written (kind_of_tokens equals isEqual) derived
        (kind_of_tokens ends isEnd), .letValue ⟨named, isName⟩ same⟩
  | .function isFun isName listed body => by
      rintro _ (_ | ⟨keyword, _ | ⟨named, rest⟩⟩)
      obtain ⟨_, _, parameters, block, rfl⟩ := exists_append_of_forall₂ rest
      obtain ⟨_, names, sameNames⟩ := listed.renames _ parameters
      obtain ⟨_, derived, same⟩ := body.renames _ block
      exact ⟨_, .function (kind_of_tokens keyword isFun) (kind_of_tokens named isName) names
        derived, .function ⟨named, isName⟩ sameNames same⟩
  | .block body => by
      intro others related
      obtain ⟨_, derived, same⟩ := body.renames _ related
      exact ⟨_, .block derived, .block same⟩
  | .conditional conditional => conditional.renames.imp .conditional
  | .whileLoop isWhile test body => by
      rintro _ (_ | ⟨keyword, rest⟩)
      obtain ⟨_, _, condition, block, rfl⟩ := exists_append_of_forall₂ rest
      obtain ⟨_, tests, sameTest⟩ := test.renames _ condition
      obtain ⟨_, derived, same⟩ := body.renames _ block
      exact ⟨_, .whileLoop (kind_of_tokens keyword isWhile) tests derived,
        .whileLoop keyword sameTest same⟩
  | .forLoop isFor isName isIn ranged body => by
      rintro _ (_ | ⟨keyword, _ | ⟨named, _ | ⟨inWord, rest⟩⟩⟩)
      obtain ⟨_, _, bounds, block, rfl⟩ := exists_append_of_forall₂ rest
      obtain ⟨_, ranges, sameBounds⟩ := ranged.renames _ bounds
      obtain ⟨_, derived, same⟩ := body.renames _ block
      exact ⟨_, .forLoop (kind_of_tokens keyword isFor) (kind_of_tokens named isName)
        (kind_of_tokens inWord isIn) ranges derived, .forLoop ⟨named, isName⟩ sameBounds same⟩
  | .giveUnit isReturn isEnd => by
      rintro _ (_ | ⟨keyword, _ | ⟨ends, _ | _⟩⟩)
      exact ⟨_, .giveUnit (kind_of_tokens keyword isReturn) (kind_of_tokens ends isEnd),
        .giveBack keyword .none⟩
  | .giveValue isReturn given isEnd => by
      intro others related
      obtain ⟨_, inner, _, rfl, keyword, within, ends⟩ := exists_enclosed related
      obtain ⟨_, derived, same⟩ := given.renames _ within
      exact ⟨_, .giveValue (kind_of_tokens keyword isReturn) derived (kind_of_tokens ends isEnd),
        .giveBack keyword (.some same)⟩
  | .expression value isEnd => by
      intro others related
      obtain ⟨_, mark, _, rfl, within, ends, _ | _⟩ := exists_around related
      obtain ⟨_, derived, same⟩ := value.renames _ within
      exact ⟨_, .expression derived (kind_of_tokens ends isEnd), .expression same⟩
termination_by structural derived => derived

theorem Conditional.renames {tokens : List Token} {stmt : Stmt} :
    Conditional tokens stmt → Renames naming Conditional (Stmt.Renamed naming) tokens stmt
  | .alone isIf test body => by
      rintro _ (_ | ⟨keyword, rest⟩)
      obtain ⟨_, _, condition, block, rfl⟩ := exists_append_of_forall₂ rest
      obtain ⟨_, tests, sameTest⟩ := test.renames _ condition
      obtain ⟨_, derived, same⟩ := body.renames _ block
      exact ⟨_, .alone (kind_of_tokens keyword isIf) tests derived, .ifThen keyword sameTest same⟩
  | .orBlock isIf test body isElse alternative => by
      rintro _ (_ | ⟨keyword, rest⟩)
      obtain ⟨_, mark, _, rfl, before, elseWord, other⟩ := exists_around rest
      obtain ⟨_, _, condition, block, rfl⟩ := exists_append_of_forall₂ before
      obtain ⟨_, tests, sameTest⟩ := test.renames _ condition
      obtain ⟨_, derived, same⟩ := body.renames _ block
      obtain ⟨_, derivedOther, sameOther⟩ := alternative.renames _ other
      exact ⟨_, .orBlock (kind_of_tokens keyword isIf) tests derived
        (kind_of_tokens elseWord isElse) derivedOther,
        .ifElse keyword sameTest same (.block sameOther)⟩
  | .orConditional isIf test body isElse alternative => by
      rintro _ (_ | ⟨keyword, rest⟩)
      obtain ⟨_, mark, _, rfl, before, elseWord, other⟩ := exists_around rest
      obtain ⟨_, _, condition, block, rfl⟩ := exists_append_of_forall₂ before
      obtain ⟨_, tests, sameTest⟩ := test.renames _ condition
      obtain ⟨_, derived, same⟩ := body.renames _ block
      obtain ⟨_, derivedOther, sameOther⟩ := alternative.renames _ other
      exact ⟨_, .orConditional (kind_of_tokens keyword isIf) tests derived
        (kind_of_tokens elseWord isElse) derivedOther, .ifElse keyword sameTest same sameOther⟩
termination_by structural derived => derived

theorem Braced.renames {tokens : List Token} {body : Block} :
    Braced tokens body → Renames naming Braced (Block.Renamed naming) tokens body
  | .plain opens listed closes => by
      intro others related
      obtain ⟨_, inner, _, rfl, first, within, last⟩ := exists_enclosed related
      obtain ⟨_, derived, same⟩ := listed.renames _ within
      exact ⟨_, .plain (kind_of_tokens first opens) derived (kind_of_tokens last closes),
        .mk first same .none⟩
  | .tail opens listed value closes => by
      rintro _ (_ | ⟨first, rest⟩)
      obtain ⟨_, mark, _, rfl, before, last, _ | _⟩ := exists_around rest
      obtain ⟨_, _, front, back, rfl⟩ := exists_append_of_forall₂ before
      obtain ⟨_, derived, same⟩ := listed.renames _ front
      obtain ⟨_, derivedTail, sameTail⟩ := value.renames _ back
      exact ⟨_, .tail (kind_of_tokens first opens) derived derivedTail
        (kind_of_tokens last closes), .mk first same (.some sameTail)⟩
termination_by structural derived => derived

theorem Statements.renames {tokens : List Token} {stmts : List Stmt} :
    Statements tokens stmts →
      Renames naming Statements (List.Forall₂ (Stmt.Renamed naming)) tokens stmts
  | .nil => by
      rintro _ (_ | _)
      exact ⟨[], .nil, .nil⟩
  | .cons first following => by
      intro others related
      obtain ⟨_, _, front, back, rfl⟩ := exists_append_of_forall₂ related
      obtain ⟨_, derived, same⟩ := first.renames _ front
      obtain ⟨_, derivedRest, sameRest⟩ := following.renames _ back
      exact ⟨_, .cons derived derivedRest, .cons same sameRest⟩
termination_by structural derived => derived

end

end Statements

end Grammar

/-- What is read from renamed tokens is the renamed program. -/
theorem Program.exists_read_renamed {naming : Naming} {tokens others : List Token}
    {program : Program} (related : List.Forall₂ naming.tokens tokens others)
    (read : Program.read tokens = .ok program) :
    ∃ other, Program.read others = .ok other ∧
      List.Forall₂ (Stmt.Renamed naming) program other := by
  obtain ⟨used, behind, rfl, ends, derived⟩ := Program.read_eq_ok_iff.1 read
  obtain ⟨front, back, relatedUsed, relatedBehind, rfl⟩ :=
    Grammar.exists_append_of_forall₂ related
  obtain ⟨other, derived, same⟩ := derived.renames _ relatedUsed
  refine ⟨other, Program.read_eq_ok_iff.2 ⟨front, back, rfl, ?_, derived⟩, same⟩
  cases relatedBehind with
  | nil => exact fun token member => by cases member
  | cons marks _ =>
      exact Reader.ahead_cons.2 (Grammar.kind_of_tokens marks (Reader.ahead_cons.1 ends))

end CheckedScript
