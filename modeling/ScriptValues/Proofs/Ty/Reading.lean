import ScriptValues.Proofs.Ty.Equivalence
import ScriptValues.Ty.Registry

/-! How the text of a type reads.

The text determines the type but for one thing: a suffix behind the text of a function type reads as
a suffix of the result, whether it was meant for the result or for the function type. Two types have
the same text exactly if they are equal once each is taken as its text reads. -/

namespace ScriptValues

inductive Suffix where
  | list
  | set

namespace Suffix

def chars : Suffix → List Char
  | list => ['[', ']']
  | set => ['<', '>']

def wrap : Suffix → Ty → Ty
  | list, ty => .list ty
  | set, ty => .set ty

end Suffix

inductive Nominal where
  | aggregate
  | enum
  deriving DecidableEq

/-- Whether a character is free to stand in names: it is none of those that the text of a type puts
between names. -/
def wordChar (c : Char) : Bool := c ∉ ['[', ']', '<', '>', '(', ')', ',', ' ', '-']

def Identifier (name : String) : Prop := name ≠ "" ∧ ∀ c ∈ name.toList, wordChar c = true

instance (name : String) : Decidable (Identifier name) :=
  decidable_of_iff (name ≠ "" ∧ name.toList.all wordChar = true)
    (and_congr_right fun _ => List.all_eq_true)

namespace Ty

def chars (ty : Ty) : List Char := ty.text.toList

def suffixed : Ty → Suffix → Ty
  | function parameters result, suffix => function parameters (result.suffixed suffix)
  | ty, suffix => suffix.wrap ty

def suffixedAll (ty : Ty) (suffixes : List Suffix) : Ty := suffixes.foldl suffixed ty

mutual

def asRead : Ty → Ty
  | list element => element.asRead.suffixed .list
  | set element => element.asRead.suffixed .set
  | map key element => map key.asRead element.asRead
  | function parameters result => function (asReadAll parameters) result.asRead
  | ty => ty

def asReadAll : List Ty → List Ty
  | [] => []
  | ty :: rest => ty.asRead :: asReadAll rest

end

mutual

def collectsFunctions : Ty → Bool
  | list element | set element => element.isFunction || element.collectsFunctions
  | map key element => key.collectsFunctions || element.collectsFunctions
  | function parameters result => collectsFunctionsAll parameters || result.collectsFunctions
  | _ => false

def collectsFunctionsAll : List Ty → Bool
  | [] => false
  | ty :: rest => ty.collectsFunctions || collectsFunctionsAll rest

end

mutual

def nominals : Ty → List (String × Nominal)
  | aggregate name _ _ => [(name, .aggregate)]
  | enum definition => [(definition.name, .enum)]
  | list element | set element => element.nominals
  | map key element => key.nominals ++ element.nominals
  | function parameters result => nominalsAll parameters ++ result.nominals
  | noType | scalar _ | prototype _ => []

def nominalsAll : List Ty → List (String × Nominal)
  | [] => []
  | ty :: rest => ty.nominals ++ nominalsAll rest

end

/-- The types that are words of the language: those that are built in, and the absent type. -/
def fixed : List Ty := .noType :: Registry.builtins

def reserved : List String := fixed.map name

/-- Each name is a word that is not reserved, and stands for an aggregate or for an enum as `meaning`
has it. -/
def Meant (meaning : String → Nominal) (uses : List (String × Nominal)) : Prop :=
  ∀ use ∈ uses, Identifier use.1 ∧ use.1 ∉ reserved ∧ use.2 = meaning use.1

def WellNamed (meaning : String → Nominal) (ty : Ty) : Prop := Meant meaning ty.nominals

instance (meaning : String → Nominal) (ty : Ty) : Decidable (WellNamed meaning ty) :=
  inferInstanceAs (Decidable (∀ use ∈ ty.nominals, _))

def isWord : Ty → Bool
  | list _ | set _ | map _ _ | function _ _ => false
  | _ => true

variable {meaning : String → Nominal} {t u : Ty}

theorem meant_append {a b : List (String × Nominal)} :
    Meant meaning (a ++ b) ↔ Meant meaning a ∧ Meant meaning b := List.forall_mem_append

/-! What a suffix does -/

theorem suffixedAll_function (parameters : List Ty) (result : Ty) (suffixes : List Suffix) :
    (function parameters result).suffixedAll suffixes =
      function parameters (result.suffixedAll suffixes) := by
  induction suffixes generalizing result with
  | nil => rfl
  | cons suffix rest ih => exact ih (result.suffixed suffix)

theorem same_suffixed {a b : Ty} (equal : a.same b = true) (suffix : Suffix) :
    (a.suffixed suffix).same (b.suffixed suffix) = true := by
  cases a with
  | function ps x =>
      cases b with
      | function qs y =>
          rw [same, Bool.and_eq_true] at equal
          rw [suffixed, suffixed, same, Bool.and_eq_true]
          exact ⟨equal.1, same_suffixed equal.2 suffix⟩
      | _ => cases equal
  | _ =>
      cases b with
      | function => cases equal
      | _ => cases suffix <;> exact equal

theorem same_suffixedAll {a b : Ty} (equal : a.same b = true) (suffixes : List Suffix) :
    (a.suffixedAll suffixes).same (b.suffixedAll suffixes) = true := by
  induction suffixes generalizing a b with
  | nil => exact equal
  | cons suffix rest ih => exact ih (same_suffixed equal suffix)

theorem asRead_of_isWord (word : t.isWord = true) : t.asRead = t := by
  cases t with
  | list | set | map | function => cases word
  | _ => rw [asRead] <;> nofun

theorem suffixed_of_not_isFunction (other : t.isFunction = false) (suffix : Suffix) :
    t.suffixed suffix = suffix.wrap t := by
  cases t with
  | function => cases other
  | _ => rfl

mutual

theorem asRead_eq_self (t : Ty) (plain : t.collectsFunctions = false) : t.asRead = t := by
  cases t with
  | list element | set element =>
      rw [collectsFunctions, Bool.or_eq_false_iff] at plain
      rw [asRead, asRead_eq_self element plain.2, suffixed_of_not_isFunction plain.1]
      rfl
  | map key element =>
      rw [collectsFunctions, Bool.or_eq_false_iff] at plain
      rw [asRead, asRead_eq_self key plain.1, asRead_eq_self element plain.2]
  | function parameters result =>
      rw [collectsFunctions, Bool.or_eq_false_iff] at plain
      rw [asRead, asReadAll_eq_self parameters plain.1, asRead_eq_self result plain.2]
  | _ => exact asRead_of_isWord rfl

theorem asReadAll_eq_self (types : List Ty) (plain : collectsFunctionsAll types = false) :
    asReadAll types = types := by
  cases types with
  | nil => rfl
  | cons ty rest =>
      rw [collectsFunctionsAll, Bool.or_eq_false_iff] at plain
      rw [asReadAll, asRead_eq_self ty plain.1, asReadAll_eq_self rest plain.2]

end

/-! Texts as characters -/

theorem chars_list (element : Ty) : (list element).chars = element.chars ++ Suffix.list.chars := by
  rw [chars, text, String.toList_append]
  rfl

theorem chars_set (element : Ty) : (set element).chars = element.chars ++ Suffix.set.chars := by
  rw [chars, text, String.toList_append]
  rfl

theorem chars_map (key element : Ty) :
    (map key element).chars = '[' :: (key.chars ++ ' ' :: '-' :: '>' :: ' ' ::
      (element.chars ++ [']'])) := by
  simp only [chars, text, String.toList_append, List.append_assoc]
  rfl

def moreChars : List Ty → List Char
  | [] => []
  | ty :: rest => ',' :: ' ' :: (ty.chars ++ moreChars rest)

def parameterChars : List Ty → List Char
  | [] => []
  | ty :: rest => ty.chars ++ moreChars rest

theorem toList_intercalate_texts (parameters : List Ty) :
    (String.intercalate ", " (texts parameters)).toList = parameterChars parameters := by
  rw [String.toList_intercalate]
  cases parameters with
  | nil => rfl
  | cons ty rest =>
      rw [texts, List.map_cons]
      change _ = ty.text.toList ++ moreChars rest
      induction rest generalizing ty with
      | nil => simp [texts, moreChars]
      | cons next rest ih =>
          rw [texts, List.map_cons, List.intercalate_cons_cons, ih next]
          simp [moreChars, chars]

theorem chars_function (parameters : List Ty) (result : Ty) :
    (function parameters result).chars = 'f' :: 'n' :: '(' :: (parameterChars parameters ++
      ')' :: ' ' :: '-' :: '>' :: ' ' :: result.chars) := by
  simp only [chars, text, enclosed, String.toList_append, toList_intercalate_texts,
    List.append_assoc]
  rfl

/-! Where words and suffixes end -/

def suffixChars (suffixes : List Suffix) : List Char := suffixes.flatMap Suffix.chars

/-- What may follow the text of a type inside another one, or at its end. -/
def Stop (rest : List Char) : Prop := ∀ c ∈ rest.head?, c ∈ [',', ')', ']', ' ']

theorem stop_nil : Stop [] := nofun

theorem stop_cons {c : Char} (stops : c ∈ [',', ')', ']', ' ']) (rest : List Char) :
    Stop (c :: rest) := by
  intro d head
  cases head
  exact stops

theorem stop_moreChars (types : List Ty) (rest : List Char) :
    Stop (moreChars types ++ ')' :: rest) := by
  cases types with
  | nil => exact stop_cons (by decide) _
  | cons ty types => exact stop_cons (by decide) _

theorem suffixChars_append_injective {a b : List Suffix} {r s : List Char} (stopR : Stop r)
    (stopS : Stop s) (equal : suffixChars a ++ r = suffixChars b ++ s) : a = b ∧ r = s := by
  -- A suffix opens with a character at which nothing stops.
  have open_ne : ∀ (x : Suffix) (rest t : List Char), Stop t → x.chars ++ rest ≠ t := by
    rintro x rest _ stop rfl
    cases x with
    | list => exact absurd (stop '[' rfl) (by decide)
    | set => exact absurd (stop '<' rfl) (by decide)
  induction a generalizing b with
  | nil =>
      cases b with
      | nil => exact ⟨rfl, equal⟩
      | cons y b =>
          rw [suffixChars, suffixChars, List.flatMap_cons, List.append_assoc] at equal
          exact absurd equal.symm (open_ne y _ r stopR)
  | cons x a ih =>
      cases b with
      | nil =>
          rw [suffixChars, suffixChars, List.flatMap_cons, List.append_assoc] at equal
          exact absurd equal (open_ne x _ s stopS)
      | cons y b =>
          rw [suffixChars, suffixChars, List.flatMap_cons, List.flatMap_cons, List.append_assoc,
            List.append_assoc] at equal
          cases x with
          | list =>
              cases y with
              | list =>
                  obtain ⟨same, rest⟩ := ih (List.append_cancel_left equal)
                  exact ⟨congrArg _ same, rest⟩
              | set => exact absurd (List.cons.inj equal).1 (by decide)
          | set =>
              cases y with
              | list => exact absurd (List.cons.inj equal).1 (by decide)
              | set =>
                  obtain ⟨same, rest⟩ := ih (List.append_cancel_left equal)
                  exact ⟨congrArg _ same, rest⟩

def Breaks (rest : List Char) : Prop := ∀ c ∈ rest.head?, wordChar c = false

theorem breaks_suffixChars (suffixes : List Suffix) {rest : List Char} (stop : Stop rest) :
    Breaks (suffixChars suffixes ++ rest) := by
  intro c head
  cases suffixes with
  | nil =>
      have stops := stop c head
      simp only [List.mem_cons, List.not_mem_nil, or_false] at stops
      rcases stops with rfl | rfl | rfl | rfl <;> decide
  | cons suffix suffixes =>
      cases suffix with
      | list =>
          cases head
          decide
      | set =>
          cases head
          decide

theorem takeWhile_wordChar {word rest : List Char} (chars : ∀ c ∈ word, wordChar c = true)
    (breaks : Breaks rest) : (word ++ rest).takeWhile wordChar = word := by
  rw [List.takeWhile_append_of_pos chars]
  cases rest with
  | nil => exact List.append_nil word
  | cons c rest =>
      rw [List.takeWhile_cons, breaks c rfl]
      exact List.append_nil word

theorem word_append_injective {a b r s : List Char} (wordA : ∀ c ∈ a, wordChar c = true)
    (wordB : ∀ c ∈ b, wordChar c = true) (breaksR : Breaks r) (breaksS : Breaks s)
    (equal : a ++ r = b ++ s) : a = b ∧ r = s := by
  have word : a = b := by
    calc
      a = (a ++ r).takeWhile wordChar := (takeWhile_wordChar wordA breaksR).symm
      _ = (b ++ s).takeWhile wordChar := by rw [equal]
      _ = b := takeWhile_wordChar wordB breaksS
  subst word
  exact ⟨rfl, List.append_cancel_left equal⟩

/-! Words -/

theorem word_of_wellNamed (named : t.WellNamed meaning) (word : t.isWord = true) :
    Identifier t.text := by
  cases t with
  | list | set | map | function => cases word
  | noType => decide
  | scalar s => cases s <;> decide
  | prototype kind => cases kind <;> decide
  | aggregate name => exact (named (name, .aggregate) List.mem_cons_self).1
  | enum definition => exact (named (definition.name, .enum) List.mem_cons_self).1

theorem mem_fixed_of_word (word : t.isWord = true) (unnamed : t.nominals = []) : t ∈ fixed := by
  cases t with
  | list | set | map | function => cases word
  | aggregate | enum => cases unnamed
  | noType => simp [fixed]
  | scalar s => cases s <;> simp [fixed, Registry.builtins, int, float, bool, string, graph]
  | prototype kind => cases kind <;> simp [fixed, Registry.builtins]

theorem same_of_fixed (fixedT : t ∈ fixed) (fixedU : u ∈ fixed) (equal : t.text = u.text) :
    t.same u = true := by
  have apart : ∀ a ∈ fixed, ∀ b ∈ fixed, a.text = b.text → a.same b = true := by decide
  exact apart t fixedT u fixedU equal

theorem word_cases (named : t.WellNamed meaning) (word : t.isWord = true) :
    t ∈ fixed ∨ t.text ∉ reserved ∧ t.nominals = [(t.text, meaning t.text)] := by
  cases t with
  | aggregate name members adapted =>
      have use := named (name, .aggregate) List.mem_cons_self
      exact .inr ⟨use.2.1, congrArg (fun kind => [(name, kind)]) use.2.2⟩
  | enum definition =>
      have use := named (definition.name, .enum) List.mem_cons_self
      exact .inr ⟨use.2.1, congrArg (fun kind => [(definition.name, kind)]) use.2.2⟩
  | list | set | map | function => cases word
  | noType | scalar | prototype => exact .inl (mem_fixed_of_word word rfl)

theorem same_of_word (namedT : t.WellNamed meaning) (namedU : u.WellNamed meaning)
    (wordT : t.isWord = true) (wordU : u.isWord = true) (equal : t.text = u.text) :
    t.same u = true := by
  rcases word_cases namedT wordT with fixedT | ⟨freeT, nominalT⟩
  · rcases word_cases namedU wordU with fixedU | ⟨freeU, _⟩
    · exact same_of_fixed fixedT fixedU equal
    · exact absurd (List.mem_map_of_mem fixedT) (equal ▸ freeU)
  · rcases word_cases namedU wordU with fixedU | ⟨_, nominalU⟩
    · exact absurd (List.mem_map_of_mem fixedU) (equal ▸ freeT)
    · rw [equal, ← nominalU] at nominalT
      cases t with
      | list | set | map | function => cases wordT
      | noType | scalar | prototype =>
          rw [nominalU] at nominalT
          cases nominalT
      | aggregate name =>
          cases u with
          | aggregate => exact beq_iff_eq.mpr equal
          | list | set | map | function => cases wordU
          | _ => cases nominalT
      | enum definition =>
          cases u with
          | enum => exact beq_iff_eq.mpr equal
          | list | set | map | function => cases wordU
          | _ => cases nominalT

/-! What a text begins with -/

/-- What a type may be without the suffixes of lists and sets. -/
def IsStem (t : Ty) : Prop :=
  t.isWord = true ∨ (∃ key element, t = map key element) ∨
    ∃ parameters result, t = function parameters result

/-- A type is one that is no list or set, with suffixes. -/
theorem stem_cases (t : Ty) (named : t.WellNamed meaning) :
    ∃ (stem : Ty) (suffixes : List Suffix), stem.WellNamed meaning ∧ stem.IsStem ∧
      t.chars = stem.chars ++ suffixChars suffixes ∧
      t.asRead = stem.asRead.suffixedAll suffixes := by
  have grown : ∀ (stem : Ty) (suffixes : List Suffix) (suffix : Suffix),
      stem.chars ++ suffixChars suffixes ++ suffix.chars =
          stem.chars ++ suffixChars (suffixes ++ [suffix]) ∧
        (stem.asRead.suffixedAll suffixes).suffixed suffix =
          stem.asRead.suffixedAll (suffixes ++ [suffix]) := by
    intro stem suffixes suffix
    constructor
    · simp [suffixChars]
    · simp [suffixedAll]
  cases t with
  | list e =>
      obtain ⟨stem, suffixes, well, shape, chars, read⟩ := stem_cases e named
      refine ⟨stem, suffixes ++ [.list], well, shape, ?_, ?_⟩
      · rw [chars_list, chars, (grown stem suffixes .list).1]
      · rw [asRead, read, (grown stem suffixes .list).2]
  | set e =>
      obtain ⟨stem, suffixes, well, shape, chars, read⟩ := stem_cases e named
      refine ⟨stem, suffixes ++ [.set], well, shape, ?_, ?_⟩
      · rw [chars_set, chars, (grown stem suffixes .set).1]
      · rw [asRead, read, (grown stem suffixes .set).2]
  | map key element =>
      exact ⟨_, [], named, .inr (.inl ⟨key, element, rfl⟩), (List.append_nil _).symm, rfl⟩
  | function parameters result =>
      exact ⟨_, [], named, .inr (.inr ⟨parameters, result, rfl⟩), (List.append_nil _).symm, rfl⟩
  | _ => exact ⟨_, [], named, .inl rfl, (List.append_nil _).symm, rfl⟩

theorem chars_word (named : t.WellNamed meaning) (word : t.isWord = true) :
    (∃ c rest, t.chars = c :: rest) ∧ ∀ c ∈ t.chars, wordChar c = true := by
  obtain ⟨filled, chars⟩ := word_of_wellNamed named word
  refine ⟨?_, chars⟩
  cases found : t.chars with
  | nil => exact absurd (String.toList_eq_nil_iff.mp found) filled
  | cons c rest => exact ⟨c, rest, rfl⟩

theorem chars_head (named : t.WellNamed meaning) :
    ∃ c rest, t.chars = c :: rest ∧ c ≠ ')' := by
  obtain ⟨stem, suffixes, well, shape, chars, _⟩ := stem_cases t named
  suffices begins : ∃ c rest, stem.chars = c :: rest ∧ c ≠ ')' by
    obtain ⟨c, rest, first, other⟩ := begins
    exact ⟨c, rest ++ suffixChars suffixes, by rw [chars, first, List.cons_append], other⟩
  rcases shape with word | ⟨key, element, rfl⟩ | ⟨parameters, result, rfl⟩
  · obtain ⟨⟨c, rest, first⟩, all⟩ := chars_word well word
    refine ⟨c, rest, first, ?_⟩
    rintro rfl
    have free := all ')' (first ▸ List.mem_cons_self)
    exact absurd free (by decide)
  · exact ⟨_, _, chars_map key element, by decide⟩
  · exact ⟨_, _, chars_function parameters result, by decide⟩

theorem suffixChars_ne_parenthesis (suffixes : List Suffix) {rest x : List Char} (stop : Stop rest) :
    suffixChars suffixes ++ rest ≠ '(' :: x := by
  intro equal
  cases suffixes with
  | nil =>
      subst equal
      exact absurd (stop '(' rfl) (by decide)
  | cons suffix suffixes =>
      cases suffix with
      | list => exact absurd (List.cons.inj equal).1 (by decide)
      | set => exact absurd (List.cons.inj equal).1 (by decide)

theorem word_ne_map (named : t.WellNamed meaning) (word : t.isWord = true) (rest x : List Char) :
    t.chars ++ rest ≠ '[' :: x := by
  obtain ⟨⟨c, more, first⟩, all⟩ := chars_word named word
  intro equal
  rw [first, List.cons_append] at equal
  have free := all c (first ▸ List.mem_cons_self)
  rw [(List.cons.inj equal).1] at free
  exact absurd free (by decide)

/-- The word `fn` is not followed by a parenthesis, unless it opens a function type. -/
theorem word_ne_function (named : t.WellNamed meaning) (word : t.isWord = true)
    (suffixes : List Suffix) {rest x : List Char} (stop : Stop rest) :
    t.chars ++ (suffixChars suffixes ++ rest) ≠ 'f' :: 'n' :: '(' :: x := by
  intro equal
  have opens : Breaks ('(' :: x) := by
    intro c head
    cases head
    decide
  have split := word_append_injective (b := ['f', 'n']) (chars_word named word).2
    (List.all_eq_true.mp (by decide))
    (breaks_suffixChars suffixes stop) opens equal
  exact suffixChars_ne_parenthesis suffixes stop split.2

theorem asRead_of_word {t v : Ty} (namedT : t.WellNamed meaning) (wordT : t.isWord = true)
    (namedV : v.WellNamed meaning) (shape : v.IsStem) {a b : List Suffix} {r s : List Char}
    (stopR : Stop r) (stopS : Stop s)
    (equal : t.chars ++ (suffixChars a ++ r) = v.chars ++ (suffixChars b ++ s)) :
    (t.asRead.suffixedAll a).same (v.asRead.suffixedAll b) = true ∧ r = s := by
  rcases shape with wordV | ⟨key, element, rfl⟩ | ⟨parameters, result, rfl⟩
  · obtain ⟨word, behind⟩ := word_append_injective (chars_word namedT wordT).2
      (chars_word namedV wordV).2 (breaks_suffixChars a stopR) (breaks_suffixChars b stopS) equal
    obtain ⟨rfl, rest⟩ := suffixChars_append_injective stopR stopS behind
    have text := String.toList_inj.mp word
    rw [asRead_of_isWord wordT, asRead_of_isWord wordV]
    exact ⟨same_suffixedAll (same_of_word namedT namedV wordT wordV text) a, rest⟩
  · rw [chars_map] at equal
    exact absurd equal (word_ne_map namedT wordT _ _)
  · rw [chars_function] at equal
    exact absurd equal (word_ne_function namedT wordT a stopR)

mutual

/-- A text determines what it reads as, and where it ends. -/
theorem asRead_of_chars (t : Ty) {u : Ty} (namedT : t.WellNamed meaning)
    (namedU : u.WellNamed meaning) {a b : List Suffix} {r s : List Char} (stopR : Stop r)
    (stopS : Stop s) (equal : t.chars ++ (suffixChars a ++ r) = u.chars ++ (suffixChars b ++ s)) :
    (t.asRead.suffixedAll a).same (u.asRead.suffixedAll b) = true ∧ r = s := by
  obtain ⟨v, c, namedV, shape, chars, read⟩ := stem_cases u namedU
  have grouped : (v.asRead.suffixedAll c).suffixedAll b = v.asRead.suffixedAll (c ++ b) :=
    (List.foldl_append).symm
  have joined : suffixChars c ++ (suffixChars b ++ s) = suffixChars (c ++ b) ++ s := by
    simp [suffixChars]
  -- From here on the second type has no suffix of its own.
  rw [chars, List.append_assoc, joined] at equal
  rw [read, grouped]
  generalize c ++ b = b at equal
  by_cases wordT : t.isWord = true
  · exact asRead_of_word namedT wordT namedV shape stopR stopS equal
  · cases t with
    | list e =>
        rw [chars_list, List.append_assoc, ← List.append_assoc Suffix.list.chars] at equal
        have deeper := asRead_of_chars e namedT namedV (a := .list :: a) stopR stopS equal
        exact deeper
    | set e =>
        rw [chars_set, List.append_assoc, ← List.append_assoc Suffix.set.chars] at equal
        have deeper := asRead_of_chars e namedT namedV (a := .set :: a) stopR stopS equal
        exact deeper
    | map key element =>
        rcases shape with wordV | ⟨key', element', rfl⟩ | ⟨parameters', result', rfl⟩
        · rw [chars_map] at equal
          exact absurd equal.symm (word_ne_map namedV wordV _ _)
        · have namesT := meant_append.mp namedT
          have namesV := meant_append.mp namedV
          simp only [chars_map, List.cons_append, List.append_assoc, List.cons.injEq,
            true_and, List.nil_append] at equal
          obtain ⟨keys, equal⟩ := asRead_of_chars key namesT.1 namesV.1 (a := []) (b := [])
            (stop_cons (by decide) _) (stop_cons (by decide) _) equal
          simp only [List.cons.injEq, true_and] at equal
          obtain ⟨elements, equal⟩ := asRead_of_chars element namesT.2 namesV.2 (a := [])
            (b := []) (stop_cons (by decide) _) (stop_cons (by decide) _) equal
          obtain ⟨rfl, rest⟩ := suffixChars_append_injective stopR stopS (List.cons.inj equal).2
          refine ⟨same_suffixedAll ?_ a, rest⟩
          rw [asRead, asRead, same, Bool.and_eq_true]
          exact ⟨keys, elements⟩
        · rw [chars_map, chars_function] at equal
          exact absurd (List.cons.inj equal).1 (by decide)
    | function parameters result =>
        rcases shape with wordV | ⟨key', element', rfl⟩ | ⟨parameters', result', rfl⟩
        · rw [chars_function] at equal
          exact absurd equal.symm (word_ne_function namedV wordV b stopS)
        · rw [chars_map, chars_function] at equal
          exact absurd (List.cons.inj equal).1 (by decide)
        · have namesT := meant_append.mp namedT
          have namesV := meant_append.mp namedV
          simp only [chars_function, List.cons_append, List.append_assoc, List.cons.injEq,
            true_and] at equal
          obtain ⟨listed, equal⟩ := asReadAll_of_parameterChars parameters namesT.1 namesV.1 equal
          simp only [List.cons.injEq, true_and] at equal
          -- What follows the result is a suffix of it.
          obtain ⟨results, rest⟩ := asRead_of_chars result namesT.2 namesV.2 stopR stopS equal
          rw [asRead, asRead, suffixedAll_function, suffixedAll_function, same, Bool.and_eq_true]
          exact ⟨⟨listed, results⟩, rest⟩
    | _ => exact absurd rfl wordT

theorem asReadAll_of_parameterChars (ps : List Ty) {qs : List Ty}
    (namedP : Meant meaning (nominalsAll ps)) (namedQ : Meant meaning (nominalsAll qs))
    {r s : List Char} (equal : parameterChars ps ++ ')' :: r = parameterChars qs ++ ')' :: s) :
    sameAll (asReadAll ps) (asReadAll qs) = true ∧ r = s := by
  cases ps with
  | nil =>
      cases qs with
      | nil => exact ⟨rfl, (List.cons.inj equal).2⟩
      | cons q qs =>
          obtain ⟨c, rest, first, other⟩ := chars_head (meant_append.mp namedQ).1
          rw [parameterChars, parameterChars, first] at equal
          exact absurd (List.cons.inj equal).1.symm other
  | cons p ps =>
      cases qs with
      | nil =>
          obtain ⟨c, rest, first, other⟩ := chars_head (meant_append.mp namedP).1
          rw [parameterChars, parameterChars, first] at equal
          exact absurd (List.cons.inj equal).1 other
      | cons q qs =>
          have namesP := meant_append.mp namedP
          have namesQ := meant_append.mp namedQ
          rw [parameterChars, parameterChars, List.append_assoc, List.append_assoc] at equal
          obtain ⟨first, equal⟩ := asRead_of_chars p namesP.1 namesQ.1 (a := []) (b := [])
            (stop_moreChars ps r) (stop_moreChars qs s) equal
          obtain ⟨more, rest⟩ := asReadAll_of_moreChars ps namesP.2 namesQ.2 equal
          rw [asReadAll, asReadAll, sameAll, Bool.and_eq_true]
          exact ⟨⟨first, more⟩, rest⟩

theorem asReadAll_of_moreChars (ps : List Ty) {qs : List Ty}
    (namedP : Meant meaning (nominalsAll ps)) (namedQ : Meant meaning (nominalsAll qs))
    {r s : List Char} (equal : moreChars ps ++ ')' :: r = moreChars qs ++ ')' :: s) :
    sameAll (asReadAll ps) (asReadAll qs) = true ∧ r = s := by
  cases ps with
  | nil =>
      cases qs with
      | nil => exact ⟨rfl, (List.cons.inj equal).2⟩
      | cons q qs => exact absurd (List.cons.inj equal).1 (by decide)
  | cons p ps =>
      cases qs with
      | nil => exact absurd (List.cons.inj equal).1 (by decide)
      | cons q qs =>
          have namesP := meant_append.mp namedP
          have namesQ := meant_append.mp namedQ
          simp only [moreChars, List.cons_append, List.append_assoc, List.cons.injEq,
            true_and] at equal
          obtain ⟨first, equal⟩ := asRead_of_chars p namesP.1 namesQ.1 (a := []) (b := [])
            (stop_moreChars ps r) (stop_moreChars qs s) equal
          obtain ⟨more, rest⟩ := asReadAll_of_moreChars ps namesP.2 namesQ.2 equal
          rw [asReadAll, asReadAll, sameAll, Bool.and_eq_true]
          exact ⟨⟨first, more⟩, rest⟩

end

/-! The text of what a type reads as -/

mutual

theorem text_of_same {a b : Ty} (equal : a.same b = true) : a.text = b.text := by
  cases a with
  | list a =>
      cases b with
      | list b => rw [text, text, text_of_same (a := a) (b := b) equal]
      | _ => cases equal
  | set a =>
      cases b with
      | set b => rw [text, text, text_of_same (a := a) (b := b) equal]
      | _ => cases equal
  | map k a =>
      cases b with
      | map l b =>
          rw [same, Bool.and_eq_true] at equal
          rw [text, text, text_of_same equal.1, text_of_same equal.2]
      | _ => cases equal
  | function ps a =>
      cases b with
      | function qs b =>
          rw [same, Bool.and_eq_true] at equal
          rw [text, text, texts_of_sameAll equal.1, text_of_same equal.2]
      | _ => cases equal
  | noType =>
      cases b with
      | noType => rfl
      | _ => cases equal
  | scalar s =>
      cases b with
      | scalar => rw [beq_iff_eq.mp equal]
      | _ => cases equal
  | prototype kind =>
      cases b with
      | prototype => rw [beq_iff_eq.mp equal]
      | _ => cases equal
  | aggregate name =>
      cases b with
      | aggregate => exact beq_iff_eq.mp equal
      | _ => cases equal
  | enum definition =>
      cases b with
      | enum => exact beq_iff_eq.mp equal
      | _ => cases equal

theorem texts_of_sameAll {as bs : List Ty} (equal : sameAll as bs = true) :
    texts as = texts bs := by
  cases as with
  | nil =>
      cases bs with
      | nil => rfl
      | cons b bs => cases equal
  | cons a as =>
      cases bs with
      | nil => cases equal
      | cons b bs =>
          rw [sameAll, Bool.and_eq_true] at equal
          rw [texts, texts, text_of_same equal.1, texts_of_sameAll equal.2]

end

theorem text_suffixed (t : Ty) (suffix : Suffix) :
    (t.suffixed suffix).text = (suffix.wrap t).text := by
  cases t with
  | function parameters result =>
      have deeper := text_suffixed result suffix
      cases suffix <;>
        simp only [suffixed, text, deeper, Suffix.wrap, String.append_assoc]
  | _ => rfl

mutual

theorem text_asRead (t : Ty) : t.asRead.text = t.text := by
  cases t with
  | list element => rw [asRead, text_suffixed, Suffix.wrap, text, text, text_asRead element]
  | set element => rw [asRead, text_suffixed, Suffix.wrap, text, text, text_asRead element]
  | map key element => rw [asRead, text, text, text_asRead key, text_asRead element]
  | function parameters result =>
      rw [asRead, text, text, texts_asReadAll parameters, text_asRead result]
  | _ => rw [asRead_of_isWord rfl]

theorem texts_asReadAll (types : List Ty) : texts (asReadAll types) = texts types := by
  cases types with
  | nil => rfl
  | cons ty rest => rw [asReadAll, texts, texts, text_asRead ty, texts_asReadAll rest]

end

/-- Types have one text exactly if they read as equal types. -/
theorem text_eq_iff (namedT : t.WellNamed meaning) (namedU : u.WellNamed meaning) :
    t.text = u.text ↔ t.asRead.same u.asRead = true := by
  constructor
  · intro equal
    have chars : t.chars ++ (suffixChars [] ++ []) = u.chars ++ (suffixChars [] ++ []) := by
      rw [Ty.chars, Ty.chars, equal]
    exact (asRead_of_chars t namedT namedU (a := []) (b := []) stop_nil stop_nil chars).1
  · intro equal
    calc
      t.text = t.asRead.text := (text_asRead t).symm
      _ = u.asRead.text := text_of_same equal
      _ = u.text := text_asRead u

end Ty

end ScriptValues
