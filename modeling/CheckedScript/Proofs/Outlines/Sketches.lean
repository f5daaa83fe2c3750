import CheckedScript.Proofs.Scanning.Respacing
import CheckedScript.Tree

/-!
# Sketches

A sketch is what is left of a tree when all that counts is how its outline is printed: words,
texts between quotes, names with a written type, forms between parentheses, and blocks
between braces, some of whose parts are ended by a semicolon.  A printed sketch can be told
from what follows it, so no two sketches are printed alike.
-/

namespace CheckedScript

mutual

/-- What outlines are made of. -/
inductive Sketch where
  | word (text : String)
  | quoted (text : String)
  | typed (name : String) (type : WrittenType)
  | form (items : List Sketch)
  | block (parts : List Sketch.Part)

/-- What a block is made of. -/
inductive Sketch.Part where
  | plain (inner : Sketch)
  | ended (inner : Sketch)

end

namespace Sketch

mutual

/-- The text of a sketch. -/
def print : Sketch → List Char
  | .word text => text.toList
  | .quoted text => text.toList
  | .typed name type => name.toList ++ ':' :: ' ' :: type.type.describe.toList
  | .form items => '(' :: ([' '].intercalate (printAll items) ++ [')'])
  | .block parts => '\x7b' :: ([' '].intercalate (printParts parts) ++ ['\x7d'])

/-- The texts of several sketches. -/
def printAll : List Sketch → List (List Char)
  | [] => []
  | item :: items => item.print :: printAll items

/-- The text of a part of a block. -/
def Part.print : Part → List Char
  | .plain inner => inner.print
  | .ended inner => inner.print ++ [';']

/-- The texts of several parts of a block. -/
def printParts : List Part → List (List Char)
  | [] => []
  | part :: parts => part.print :: printParts parts

end

theorem printAll_eq_map (items : List Sketch) : printAll items = items.map print := by
  induction items with
  | nil => rfl
  | cons item items inductionHypothesis => rw [printAll, inductionHypothesis, List.map_cons]

theorem printParts_eq_map (parts : List Part) : printParts parts = parts.map Part.print := by
  induction parts with
  | nil => rfl
  | cons part parts inductionHypothesis => rw [printParts, inductionHypothesis, List.map_cons]

/-- The characters that no word contains. -/
def IsDelimiter (character : Char) : Prop :=
  character ∈ [' ', '(', ')', '\x7b', '\x7d', ':', ';', '"']

instance (character : Char) : Decidable (IsDelimiter character) :=
  List.instDecidableMemOfLawfulBEq _ _

/-- A text without delimiters. -/
def IsWord (text : List Char) : Prop :=
  ∀ character ∈ text, ¬ IsDelimiter character

instance (text : List Char) : Decidable (IsWord text) :=
  List.decidableBAll _ text

/-- A text that ends at the first quote behind the one it begins with. -/
def IsQuoted (segmentation : Segmentation) (text : List Char) : Prop :=
  ∃ body, segmentation.clusters text = ['"'] :: body ++ [['"']] ∧
    ∀ cluster ∈ body, cluster ≠ ['"']

mutual

/-- A sketch whose words are words. -/
def Sound (segmentation : Segmentation) : Sketch → Prop
  | .word text => text.toList ≠ [] ∧ IsWord text.toList
  | .quoted text => IsQuoted segmentation text.toList
  | .typed name _ => IsWord name.toList
  | .form items => AreSound segmentation items
  | .block parts => PartsSound segmentation parts

def AreSound (segmentation : Segmentation) : List Sketch → Prop
  | [] => True
  | item :: items => item.Sound segmentation ∧ AreSound segmentation items

def Part.Sound (segmentation : Segmentation) : Part → Prop
  | .plain inner => inner.Sound segmentation
  | .ended inner => inner.Sound segmentation

def PartsSound (segmentation : Segmentation) : List Part → Prop
  | [] => True
  | part :: parts => part.Sound segmentation ∧ PartsSound segmentation parts

end

variable {segmentation : Segmentation}

theorem areSound_iff {items : List Sketch} :
    AreSound segmentation items ↔ ∀ item ∈ items, item.Sound segmentation := by
  induction items with
  | nil => simp [AreSound]
  | cons item items inductionHypothesis =>
      rw [AreSound, inductionHypothesis, List.forall_mem_cons]

theorem partsSound_iff {parts : List Part} :
    PartsSound segmentation parts ↔ ∀ part ∈ parts, part.Sound segmentation := by
  induction parts with
  | nil => simp [PartsSound]
  | cons part parts inductionHypothesis =>
      rw [PartsSound, inductionHypothesis, List.forall_mem_cons]

end Sketch

section Reading

variable {α : Type}

/-- The text of a thing can be told from a text behind it, if that is one of those that may
follow. -/
def Reads (print : α → List Char) (sound : α → Prop) (follows : List Char → Prop) (value : α) :
    Prop :=
  ∀ other rest more, sound other → follows rest → follows more →
    print value ++ rest = print other ++ more → value = other ∧ rest = more

theorem intercalate_cons (separator first : List Char) (others : List (List Char)) :
    separator.intercalate (first :: others) = first ++ others.flatMap (separator ++ ·) := by
  induction others generalizing first with
  | nil => simp
  | cons second others inductionHypothesis =>
      rw [List.intercalate_cons_cons, inductionHypothesis, List.flatMap_cons, List.append_assoc,
        List.append_assoc]

section Listing

variable {print : α → List Char} {sound : α → Prop} {follows : List Char → Prop}
  {first closing : Char} {separator : List Char} {items others : List α} {rest more : List Char}

/-- What follows one of several things with a separator before each of them. -/
theorem follows_flatMap (separates : ∀ rest, follows (first :: separator ++ rest))
    (closes : ∀ rest, follows (closing :: rest)) (texts : List (List Char)) (rest : List Char) :
    follows (texts.flatMap (first :: separator ++ ·) ++ closing :: rest) := by
  cases texts with
  | nil => exact closes rest
  | cons text texts =>
      rw [List.flatMap_cons, List.append_assoc, List.append_assoc]
      exact separates _

/-- Things with a separator before each of them, up to a closing mark. -/
theorem eq_of_flatMap_eq (different : first ≠ closing)
    (separates : ∀ rest, follows (first :: separator ++ rest))
    (closes : ∀ rest, follows (closing :: rest))
    (reads : ∀ item ∈ items, Reads print sound follows item)
    (soundOthers : ∀ other ∈ others, sound other)
    (same : (items.map print).flatMap (first :: separator ++ ·) ++ closing :: rest =
      (others.map print).flatMap (first :: separator ++ ·) ++ closing :: more) :
    items = others ∧ rest = more := by
  induction items generalizing others with
  | nil =>
      cases others with
      | nil => exact ⟨rfl, (List.cons.inj same).2⟩
      | cons other others => exact absurd (List.cons.inj same).1.symm different
  | cons item items inductionHypothesis =>
      cases others with
      | nil => exact absurd (List.cons.inj same).1 different
      | cons other others =>
          obtain ⟨here, later⟩ := List.forall_mem_cons.1 reads
          obtain ⟨soundHere, soundLater⟩ := List.forall_mem_cons.1 soundOthers
          simp only [List.map_cons, List.flatMap_cons, List.append_assoc,
            List.append_cancel_left_eq] at same
          obtain ⟨rfl, behind⟩ := here other _ _ soundHere
            (follows_flatMap separates closes _ rest) (follows_flatMap separates closes _ more) same
          obtain ⟨rfl, last⟩ := inductionHypothesis later soundLater behind
          exact ⟨rfl, last⟩

/-- Things with a separator between neighbours, up to a closing mark that none of them begins
with. -/
theorem eq_of_intercalate_eq (different : first ≠ closing)
    (separates : ∀ rest, follows (first :: separator ++ rest))
    (closes : ∀ rest, follows (closing :: rest))
    (begins : ∀ item, sound item → ∀ rest more, print item ++ rest ≠ closing :: more)
    (soundItems : ∀ item ∈ items, sound item)
    (reads : ∀ item ∈ items, Reads print sound follows item)
    (soundOthers : ∀ other ∈ others, sound other)
    (same : (first :: separator).intercalate (items.map print) ++ closing :: rest =
      (first :: separator).intercalate (others.map print) ++ closing :: more) :
    items = others ∧ rest = more := by
  cases items with
  | nil =>
      cases others with
      | nil => exact ⟨rfl, (List.cons.inj same).2⟩
      | cons other others =>
          obtain ⟨soundHere, -⟩ := List.forall_mem_cons.1 soundOthers
          rw [List.map_cons, intercalate_cons, List.append_assoc] at same
          exact absurd same.symm (begins other soundHere _ _)
  | cons item items =>
      cases others with
      | nil =>
          obtain ⟨soundHere, -⟩ := List.forall_mem_cons.1 soundItems
          rw [List.map_cons, intercalate_cons, List.append_assoc] at same
          exact absurd same (begins item soundHere _ _)
      | cons other others =>
          rw [List.map_cons, List.map_cons, intercalate_cons, intercalate_cons, List.append_assoc,
            List.append_assoc] at same
          refine eq_of_flatMap_eq different separates closes reads soundOthers ?_
          rw [List.map_cons, List.map_cons, List.flatMap_cons, List.flatMap_cons,
            List.append_assoc, List.append_assoc, List.append_assoc, List.append_assoc, same]

end Listing

end Reading

namespace WrittenType

/-- How a written type is shown. -/
def shown (type : WrittenType) : List Char :=
  type.type.describe.toList

theorem shown_number : number.shown = ['n', 'u', 'm', 'b', 'e', 'r'] :=
  rfl

theorem shown_text : text.shown = ['t', 'e', 'x', 't'] :=
  rfl

theorem shown_bool : bool.shown = ['b', 'o', 'o', 'l'] :=
  rfl

theorem shown_tuple (items : List WrittenType) :
    (tuple items).shown = '(' :: ([',', ' '].intercalate (items.map shown) ++ [')']) := by
  have each : (Ty.describeAll (types items)).map String.toList = items.map shown := by
    induction items with
    | nil => rfl
    | cons item items inductionHypothesis =>
        rw [types, Ty.describeAll, List.map_cons, inductionHypothesis, List.map_cons, shown]
  rw [shown, type, Ty.describe, String.toList_append, String.toList_append,
    String.toList_intercalate, each]
  rfl

theorem shown_begins (type : WrittenType) (rest more : List Char) :
    type.shown ++ rest ≠ ')' :: more := by
  cases type <;> simp [shown_number, shown_text, shown_bool, shown_tuple]

mutual

/-- A written type can be told from whatever is behind it. -/
theorem reads (type : WrittenType) : Reads shown (fun _ => True) (fun _ => True) type := by
  intro other rest more _ _ _ same
  cases type with
  | number =>
      cases other with
      | number => exact ⟨rfl, List.append_cancel_left same⟩
      | text | bool | tuple =>
          simp [shown_number, shown_text, shown_bool, shown_tuple] at same
  | text =>
      cases other with
      | text => exact ⟨rfl, List.append_cancel_left same⟩
      | number | bool | tuple =>
          simp [shown_number, shown_text, shown_bool, shown_tuple] at same
  | bool =>
      cases other with
      | bool => exact ⟨rfl, List.append_cancel_left same⟩
      | number | text | tuple =>
          simp [shown_number, shown_text, shown_bool, shown_tuple] at same
  | tuple items =>
      cases other with
      | number | text | bool =>
          simp [shown_number, shown_text, shown_bool, shown_tuple] at same
      | tuple others =>
          simp only [shown_tuple, List.cons_append, List.append_assoc, List.nil_append,
            List.cons.injEq, true_and] at same
          obtain ⟨rfl, behind⟩ := eq_of_intercalate_eq (by decide) (fun _ => trivial)
            (fun _ => trivial) (fun item _ => item.shown_begins) (fun _ _ => trivial)
            (all_read items) (fun _ _ => trivial) same
          exact ⟨rfl, behind⟩

theorem all_read (types : List WrittenType) :
    ∀ type ∈ types, Reads shown (fun _ => True) (fun _ => True) type := by
  cases types with
  | nil => simp
  | cons type types => exact List.forall_mem_cons.2 ⟨type.reads, all_read types⟩

end

end WrittenType

namespace Sketch

/-- What may stand behind a sketch. -/
def Follows (rest : List Char) : Prop :=
  ∀ next ∈ rest.head?, next ∈ [' ', ')', '\x7d', ';']

/-- What may stand behind a part of a block. -/
def Part.Follows (rest : List Char) : Prop :=
  ∀ next ∈ rest.head?, next ∈ [' ', '\x7d']

theorem Follows.delimiter {rest : List Char} (follows : Follows rest) :
    ∀ next ∈ rest.head?, IsDelimiter next := by
  intro next starts
  have member := follows next starts
  simp only [List.mem_cons, List.not_mem_nil, or_false] at member
  rcases member with rfl | rfl | rfl | rfl <;> decide

/-- No text that may stand behind a sketch begins with the mark of one. -/
theorem Follows.ne_cons {rest : List Char} (follows : Follows rest) {first : Char}
    (mark : first ∈ ['"', ':', '(', '\x7b']) (others : List Char) : rest ≠ first :: others := by
  rintro rfl
  have member := follows first rfl
  simp only [List.mem_cons, List.not_mem_nil, or_false] at mark member
  rcases mark with rfl | rfl | rfl | rfl <;> simp at member

variable {segmentation : Segmentation} (lawful : segmentation.Lawful)
include lawful

theorem Follows.clusters {rest : List Char} (follows : Follows rest) (body : List Char) :
    segmentation.clusters (body ++ '"' :: rest) =
      segmentation.clusters (body ++ ['"']) ++ segmentation.clusters rest := by
  refine lawful.clusters_append body fun next starts => ⟨fun ends => absurd ends.1 (by decide), ?_⟩
  have member := follows next starts
  have plain : Text.IsPlain next := by
    simp only [List.mem_cons, List.not_mem_nil, or_false] at member
    rcases member with rfl | rfl | rfl | rfl <;> exact ⟨by decide, by decide⟩
  exact .inr (.inr ⟨⟨by decide, by decide⟩, plain⟩)

/-- A text between quotes ends where it does, whatever follows. -/
theorem IsQuoted.eq_of_append_eq {text other rest more : List Char}
    (quoted : IsQuoted segmentation text) (quotedOther : IsQuoted segmentation other)
    (follows : Follows rest) (followsOther : Follows more)
    (same : text ++ rest = other ++ more) : text = other ∧ rest = more := by
  obtain ⟨body, shape, inner⟩ := quoted
  obtain ⟨bodyOther, shapeOther, innerOther⟩ := quotedOther
  have flat : ∀ {text body}, segmentation.clusters text = ['"'] :: body ++ [['"']] →
      ∃ front, text = front ++ ['"'] := by
    intro text body shape
    refine ⟨'"' :: body.flatten, ?_⟩
    rw [← lawful.lossless text, shape]
    simp
  obtain ⟨front, rfl⟩ := flat shape
  obtain ⟨frontOther, rfl⟩ := flat shapeOther
  have clusters := congrArg segmentation.clusters same
  rw [List.append_assoc, List.append_assoc, List.singleton_append, List.singleton_append,
    follows.clusters lawful, followsOther.clusters lawful, shape, shapeOther] at clusters
  simp only [List.cons_append, List.append_assoc, List.cons.injEq, true_and] at clusters
  obtain rfl := Lexis.eq_of_span (p := (· = ['"'])) clusters inner innerOther (by simp) (by simp)
  have text : front ++ ['"'] = frontOther ++ ['"'] := by
    rw [← lawful.lossless (front ++ ['"']), shape, ← shapeOther, lawful.lossless]
  rw [text] at same
  exact ⟨text, List.append_cancel_left same⟩

/-- The word that a sketch begins with. -/
def front : Sketch → List Char
  | .word text => text.toList
  | .typed name _ => name.toList
  | .quoted _ | .form _ | .block _ => []

/-- The text behind the first word. -/
def back : Sketch → List Char
  | .word _ => []
  | .typed _ type => ':' :: ' ' :: type.shown
  | other => other.print

/-- The mark that tells what kind of sketch it is, right behind the first word. -/
def mark? : Sketch → Option Char
  | .word _ => none
  | .quoted _ => some '"'
  | .typed _ _ => some ':'
  | .form _ => some '('
  | .block _ => some '\x7b'

omit lawful in
theorem front_append_back (sketch : Sketch) : sketch.front ++ sketch.back = sketch.print := by
  cases sketch <;> simp [front, back, print, WrittenType.shown]

omit lawful in
theorem Sound.isWord_front {sketch : Sketch} (sound : sketch.Sound segmentation) :
    IsWord sketch.front := by
  cases sketch with
  | word text => exact sound.2
  | typed name type => exact sound
  | quoted | form | block => exact fun _ member => absurd member List.not_mem_nil

theorem Sound.exists_mark {sketch : Sketch} (sound : sketch.Sound segmentation) :
    sketch.mark? = none ∧ sketch.back = [] ∨
      ∃ mark others, mark ∈ ['"', ':', '(', '\x7b'] ∧ sketch.mark? = some mark ∧
        sketch.back = mark :: others := by
  cases sketch with
  | word text => exact .inl ⟨rfl, rfl⟩
  | typed name type => exact .inr ⟨':', _, by decide, rfl, rfl⟩
  | form items => exact .inr ⟨'(', _, by decide, rfl, rfl⟩
  | block parts => exact .inr ⟨'\x7b', _, by decide, rfl, rfl⟩
  | quoted text =>
      obtain ⟨body, shape, -⟩ := sound
      refine .inr ⟨'"', body.flatten ++ ['"'], by decide, rfl, ?_⟩
      change text.toList = _
      rw [← lawful.lossless text.toList, shape]
      simp

/-- Two texts that begin with sketches begin with the same word, and it is the same mark that
follows. -/
theorem Sound.same_front {sketch other : Sketch} (sound : sketch.Sound segmentation)
    (soundOther : other.Sound segmentation) {rest more : List Char} (follows : Follows rest)
    (followsOther : Follows more) (same : sketch.print ++ rest = other.print ++ more) :
    sketch.front = other.front ∧ sketch.back ++ rest = other.back ++ more ∧
      sketch.mark? = other.mark? := by
  have delimited : ∀ {sketch : Sketch} {rest}, sketch.Sound segmentation → Follows rest →
      ∀ next ∈ (sketch.back ++ rest).head?, IsDelimiter next := by
    intro sketch rest sound follows
    obtain ⟨-, none⟩ | ⟨mark, others, member, -, shape⟩ := sound.exists_mark lawful
    · rw [none]
      exact follows.delimiter
    · rw [shape]
      rintro _ ⟨rfl⟩
      simp only [List.mem_cons, List.not_mem_nil, or_false] at member
      rcases member with rfl | rfl | rfl | rfl <;> decide
  rw [← front_append_back, ← front_append_back, List.append_assoc, List.append_assoc] at same
  have front : sketch.front = other.front :=
    Lexis.eq_of_span (p := IsDelimiter) same sound.isWord_front soundOther.isWord_front
      (delimited sound follows) (delimited soundOther followsOther)
  rw [front] at same
  have back := List.append_cancel_left same
  refine ⟨front, back, ?_⟩
  obtain ⟨none, shape⟩ | ⟨mark, others, member, some, shape⟩ := sound.exists_mark lawful <;>
    obtain ⟨noneOther, shapeOther⟩ | ⟨markOther, _, memberOther, someOther, shapeOther⟩ :=
      soundOther.exists_mark lawful
  · rw [none, noneOther]
  · rw [shape, shapeOther] at back
    exact absurd back (follows.ne_cons memberOther _)
  · rw [shape, shapeOther] at back
    exact absurd back.symm (followsOther.ne_cons member _)
  · rw [shape, shapeOther] at back
    rw [some, someOther, (List.cons.inj back).1]

/-- No sketch begins with a mark that closes something. -/
theorem Sound.begins {sketch : Sketch} (sound : sketch.Sound segmentation) {closing : Char}
    (closes : closing ∈ [')', '\x7d']) (rest more : List Char) :
    sketch.print ++ rest ≠ closing :: more := by
  have delimiter : IsDelimiter closing := by
    simp only [List.mem_cons, List.not_mem_nil, or_false] at closes
    rcases closes with rfl | rfl <;> decide
  intro same
  rw [← front_append_back, List.append_assoc] at same
  cases shape : sketch.front with
  | cons first others =>
      rw [shape] at same
      have inside : ¬ IsDelimiter first := sound.isWord_front first (by simp [shape])
      exact inside ((List.cons.inj same).1 ▸ delimiter)
  | nil =>
      rw [shape, List.nil_append] at same
      obtain ⟨noMark, -⟩ | ⟨mark, others, member, -, back⟩ := sound.exists_mark lawful
      · cases sketch with
        | word text => exact sound.1 shape
        | quoted | typed | form | block => cases noMark
      · rw [back] at same
        obtain rfl := (List.cons.inj same).1
        simp only [List.mem_cons, List.not_mem_nil, or_false] at closes member
        rcases closes with rfl | rfl <;> simp at member

theorem Part.Sound.begins {part : Part} (sound : part.Sound segmentation) (rest more : List Char) :
    part.print ++ rest ≠ '\x7d' :: more := by
  cases part with
  | plain inner => exact Sketch.Sound.begins lawful sound (by decide) rest more
  | ended inner =>
      rw [Part.print, List.append_assoc]
      exact Sketch.Sound.begins lawful sound (by decide) _ more

omit lawful in
theorem Part.Follows.sketch {rest : List Char} (follows : Part.Follows rest) :
    Sketch.Follows rest := by
  intro next starts
  have member := follows next starts
  simp only [List.mem_cons, List.not_mem_nil, or_false] at member ⊢
  tauto

omit lawful in
/-- No semicolon stands behind a part of a block, unless it belongs to it. -/
theorem Part.Follows.ne_semicolon {rest : List Char} (follows : Part.Follows rest)
    (others : List Char) : rest ≠ ';' :: others := by
  rintro rfl
  exact absurd (follows ';' rfl) (by decide)

omit lawful in
theorem follows_cons {next : Char} (member : next ∈ [' ', ')', '\x7d', ';']) (rest : List Char) :
    Follows (next :: rest) := by
  rintro _ ⟨rfl⟩
  exact member

omit lawful in
theorem Part.follows_cons {next : Char} (member : next ∈ [' ', '\x7d']) (rest : List Char) :
    Part.Follows (next :: rest) := by
  rintro _ ⟨rfl⟩
  exact member

omit lawful

mutual

/-- A sketch can be told from what is behind it. -/
theorem Sound.reads (lawful : segmentation.Lawful) (sketch : Sketch)
    (sound : sketch.Sound segmentation) :
    Reads print (Sound segmentation) Follows sketch := by
  intro other rest more soundOther follows followsOther same
  obtain ⟨front, back, mark⟩ := sound.same_front lawful soundOther follows followsOther same
  cases sketch with
  | word text =>
      cases other with
      | word other => exact ⟨congrArg word (String.toList_injective front), back⟩
      | quoted | typed | form | block => cases mark
  | quoted text =>
      cases other with
      | quoted other =>
          obtain ⟨text, behind⟩ :=
            IsQuoted.eq_of_append_eq lawful sound soundOther follows followsOther back
          exact ⟨congrArg quoted (String.toList_injective text), behind⟩
      | word | typed | form | block => simp [mark?] at mark
  | typed name type =>
      cases other with
      | typed other otherType =>
          simp only [Sketch.back, List.cons_append, List.cons.injEq, true_and] at back
          obtain ⟨rfl, behind⟩ := type.reads otherType rest more trivial trivial trivial back
          exact ⟨by rw [String.toList_injective front], behind⟩
      | word | quoted | form | block => simp [mark?] at mark
  | form items =>
      cases other with
      | form others =>
          simp only [Sketch.back, print, printAll_eq_map, List.cons_append, List.append_assoc,
            List.nil_append, List.cons.injEq, true_and] at back
          obtain ⟨rfl, behind⟩ := eq_of_intercalate_eq (by decide)
            (follows_cons (by decide)) (follows_cons (by decide))
            (fun item sound => sound.begins lawful (by decide)) (areSound_iff.1 sound)
            (Sound.all_read lawful items sound) (areSound_iff.1 soundOther) back
          exact ⟨rfl, behind⟩
      | word | quoted | typed | block => simp [mark?] at mark
  | block parts =>
      cases other with
      | block others =>
          simp only [Sketch.back, print, printParts_eq_map, List.cons_append, List.append_assoc,
            List.nil_append, List.cons.injEq, true_and] at back
          obtain ⟨rfl, behind⟩ := eq_of_intercalate_eq (by decide)
            (Part.follows_cons (by decide)) (Part.follows_cons (by decide))
            (fun part sound => sound.begins lawful) (partsSound_iff.1 sound)
            (Part.Sound.all_read lawful parts sound) (partsSound_iff.1 soundOther) back
          exact ⟨rfl, behind⟩
      | word | quoted | typed | form => simp [mark?] at mark

theorem Sound.all_read (lawful : segmentation.Lawful) (items : List Sketch)
    (sound : AreSound segmentation items) :
    ∀ item ∈ items, Reads print (Sound segmentation) Follows item := by
  cases items with
  | nil => simp
  | cons item items =>
      exact List.forall_mem_cons.2
        ⟨Sound.reads lawful item sound.1, Sound.all_read lawful items sound.2⟩

/-- A part of a block can be told from what is behind it. -/
theorem Part.Sound.reads (lawful : segmentation.Lawful) (part : Part)
    (sound : part.Sound segmentation) :
    Reads Part.print (Part.Sound segmentation) Part.Follows part := by
  intro other rest more soundOther follows followsOther same
  cases part with
  | plain inner =>
      have reads := Sketch.Sound.reads lawful inner sound
      cases other with
      | plain other =>
          obtain ⟨rfl, behind⟩ :=
            reads other rest more soundOther follows.sketch followsOther.sketch same
          exact ⟨rfl, behind⟩
      | ended other =>
          rw [Part.print, Part.print, List.append_assoc] at same
          have behind := (reads other rest _ soundOther follows.sketch
            (Sketch.follows_cons (by decide) more) same).2
          exact absurd behind (follows.ne_semicolon more)
  | ended inner =>
      have reads := Sketch.Sound.reads lawful inner sound
      cases other with
      | plain other =>
          rw [Part.print, Part.print, List.append_assoc] at same
          have behind := (reads other _ more soundOther (Sketch.follows_cons (by decide) rest)
            followsOther.sketch same).2
          exact absurd behind.symm (followsOther.ne_semicolon rest)
      | ended other =>
          rw [Part.print, Part.print, List.append_assoc, List.append_assoc] at same
          obtain ⟨rfl, behind⟩ := reads other _ _ soundOther
            (Sketch.follows_cons (by decide) rest) (Sketch.follows_cons (by decide) more) same
          exact ⟨rfl, (List.cons.inj behind).2⟩

theorem Part.Sound.all_read (lawful : segmentation.Lawful) (parts : List Part)
    (sound : PartsSound segmentation parts) :
    ∀ part ∈ parts, Reads Part.print (Part.Sound segmentation) Part.Follows part := by
  cases parts with
  | nil => simp
  | cons part parts =>
      exact List.forall_mem_cons.2
        ⟨Part.Sound.reads lawful part sound.1, Part.Sound.all_read lawful parts sound.2⟩

end

include lawful in
/-- No two parts of blocks are printed alike. -/
theorem Part.Sound.print_injective {part other : Part} (sound : part.Sound segmentation)
    (soundOther : other.Sound segmentation) (same : part.print = other.print) : part = other := by
  have ends : Part.Follows [] := fun next starts => by cases starts
  exact (Part.Sound.reads lawful part sound other [] [] soundOther ends ends (by rw [same])).1

end Sketch

end CheckedScript
