import EditorMode.Proofs.Basic
import EditorMode.Regex.Piece

/-!
# Pieces before a closing parenthesis

A pattern text that can be cut into pieces can also be cut if a closing parenthesis follows it: the
pieces are the same, and the parenthesis is one more (`readPieces_append_close`).  This holds as no
reader looks further than it has to.  What a reader makes of the start of a text does not depend on
a parenthesis after the text, and the parenthesis is left over (`Closable`); so it is shown for one
reader after the other, from escapes to sets, repetition marks and groups.  Hence the pieces of a
pattern in a group after a caret are known (`pieces_framed`).

There are two reasons why a parenthesis after the text makes no difference to a reader, and each has
its lemma.  Either the reader looks for certain characters, and a parenthesis is none of them
(`ne_append_close`), or it reads a run, and the run ends before the parenthesis in any case
(`stops_at_close`).  A reader that comes to the end of the text in search of something fails there,
so that nothing has to be said about it.

Texts that cannot be cut are another matter: in an unclosed set, say, the parenthesis would just be
one more character.  The same goes for patterns in which blanks and comments do not count, which are
not among those that are read here: a comment at the end of such a pattern would take the
parenthesis with it.

The counts of a repetition mark are in order wherever it is read (`wellCounted_of_readPieces`).
-/

set_option autoImplicit false

namespace EditorMode.Regex

open Text

/-- What the reader makes of a text stays the same if a closing parenthesis follows the text, and
the parenthesis is left over. -/
def Closable {α : Type} (read : List Char → Except Error (α × List Char)) : Prop :=
  ∀ ⦃text a rest⦄, read text = .ok (a, rest) → read (text ++ [')']) = .ok (a, rest ++ [')'])

/-- What is made of the result of a reader does not matter. -/
theorem Closable.map {α β : Type} {read : List Char → Except Error (α × List Char)}
    (h : Closable read) (f : α → β) :
    Closable fun text => (read text).map fun x => (f x.1, x.2) := by
  intro text b rest hread
  obtain ⟨⟨a, rest⟩, ha, heq⟩ := map_eq_ok_iff.1 hread
  obtain ⟨rfl, rfl⟩ := Prod.mk.inj heq
  exact map_eq_ok_iff.2 ⟨_, h ha, rfl⟩

/-- The parenthesis does not make a text start with characters that it did not start with. -/
theorem ne_append_close (lead : List Char) (hlead : ')' ∉ lead) {text : List Char}
    (h : ∀ rest, text = lead ++ rest → False) (rest : List Char) :
    text ++ [')'] = lead ++ rest → False := by
  intro heq
  -- What the longer text starts with is all of it, parenthesis included, or a start of the text.
  rcases List.prefix_concat_iff.1 ⟨rest, heq.symm⟩ with hall | ⟨rest, hrest⟩
  · exact hlead (hall ▸ List.mem_append_right text (List.mem_singleton_self _))
  · exact h rest hrest.symm

/-- A run that the parenthesis does not belong to ends before it. -/
theorem stops_at_close (p : Char → Bool) (h : p ')' = false) : ∀ c ∈ [')'].head?, p c = false := by
  rintro c ⟨⟩
  exact h

/-! ## Escapes

An escape is a single character after the backslash, or it has a length of its own: a number of
digits, or everything up to a closing brace. -/

/-- Digits in braces end at the closing brace; without braces their number is fixed, and there must
be as many in the text. -/
theorem closable_readCodePoint (count : Nat) : Closable (readCodePoint count) := by
  intro text c rest
  fun_cases readCodePoint count text with
  | case1 text hstop => intro h; cases h
  | case2 text digits d after hstop =>
    intro h
    obtain ⟨c, hc, heq⟩ := map_eq_ok_iff.1 h
    obtain ⟨rfl, rfl⟩ := Prod.mk.inj heq
    rw [List.cons_append, readCodePoint, dropWhile_append_of_stop hstop,
      takeWhile_append_of_stop hstop]
    exact map_eq_ok_iff.2 ⟨c, hc, rfl⟩
  | case3 text hbrace hshort => intro h; cases h
  | case4 text hbrace hlong =>
    intro h
    obtain ⟨c, hc, heq⟩ := map_eq_ok_iff.1 h
    obtain ⟨rfl, rfl⟩ := Prod.mk.inj heq
    -- All the digits are in the text itself.
    have hcount : count ≤ text.length := Nat.le_of_not_lt hlong
    rw [readCodePoint.eq_2 _ _ (ne_append_close ['{'] (by decide) hbrace),
      if_neg (by rw [List.length_append]; omega), List.take_append_of_le_length hcount,
      List.drop_append_of_le_length hcount]
    exact map_eq_ok_iff.2 ⟨c, hc, rfl⟩

/-- A class by Unicode property is one letter, which must be there, or ends at the closing brace. -/
theorem closable_readProperty (negated : Bool) : Closable (readProperty negated) := by
  intro text a rest
  fun_cases readProperty negated text with
  | case1 | case2 | case4 => intro h; cases h
  | case3 text d after hstop property differs hproperty =>
    intro h
    cases h
    rw [List.cons_append, readProperty, dropWhile_append_of_stop hstop,
      takeWhile_append_of_stop hstop]
    simp only [hproperty]
  | case5 c text hbrace hescape =>
    intro h
    cases h
    exact readProperty.eq_4 _ c _ hbrace hescape

/-- The name of a word boundary ends at the closing brace, and nothing else can end it. -/
theorem closable_readBoundary : Closable readBoundary := by
  intro text a rest
  fun_cases readBoundary text with
  | case1 isName after hstop hname | case2 isName after hstop hname
  | case3 isName after hstop hname | case4 isName after hstop hname =>
    intro h
    cases h
    simp only [isName] at hstop hname
    simp only [readBoundary, dropWhile_append_of_stop hstop, takeWhile_append_of_stop hstop, hname]
  | case5 => intro h; cases h

/-- The only character that an escape looks for beyond its own is a brace after `\b`, and then the
character after the brace, which decides whether there is a name. -/
theorem closable_readEscape : Closable readEscape := by
  intro text a rest
  fun_cases readEscape text with
  | case1 => intro h; cases h
  | case2 text => exact fun h => (closable_readCodePoint 2).map Atom.char h
  | case3 text hbrace =>
    intro h
    exact (readEscape.eq_3 _ (ne_append_close ['{'] (by decide) hbrace)).trans
      ((closable_readCodePoint 2).map Atom.byte h)
  | case4 text => exact fun h => (closable_readCodePoint 4).map Atom.char h
  | case5 text => exact fun h => (closable_readCodePoint 8).map Atom.char h
  | case6 text => exact fun h => closable_readProperty false h
  | case7 text => exact fun h => closable_readProperty true h
  | case8 text hname =>
    intro h
    -- Right at the end of the text a brace is no boundary, so that there is a name to read.
    cases text with
    | nil => cases h
    | cons c text =>
      exact (readEscape.eq_8 _).trans ((if_pos hname).trans (closable_readBoundary h))
  | case9 text hname =>
    intro h
    cases h
    -- The brace is no boundary because of the character after it, which stays the same.
    cases text with
    | nil => exact absurd rfl hname
    | cons c text => exact (readEscape.eq_8 _).trans (if_neg hname)
  | case10 c text _ hx hu hU hp hP hbrace =>
    intro h
    have hnext : ∀ rest, c = 'b' → text ++ [')'] = '{' :: rest → False := fun rest hc =>
      ne_append_close ['{'] (by decide) (fun rest => hbrace rest hc) rest
    rw [List.cons_append, readEscape.eq_9 c _ (fun _ hc _ => hx hc) hx hu hU hp hP hnext]
    cases hescaped : escaped? c with
    | none =>
      rw [hescaped] at h
      cases h
    | some atom =>
      rw [hescaped] at h
      cases h
      rfl

/-! ## Sets

A set ends at the bracket that closes it, so that a text that can be read has everything that its
sets look for: a parenthesis after the text is outside of all of them.  In the middle of a set the
readers look ahead by two characters at most, for the bracket or the dash after a dash, the second
half of an operator and the colon of a class with a name. -/

/-- A single character of a set, or an escape. -/
theorem closable_readSetAtom : Closable readSetAtom := by
  intro text a rest
  fun_cases readSetAtom text with
  | case1 => intro h; cases h
  | case2 text => exact fun h => closable_readEscape h
  | case3 c text hc =>
    intro h
    cases h
    exact readSetAtom.eq_3 c _ hc

/-- After an atom comes a dash that makes no range, because a bracket or a second dash follows it,
or a range, or the next item.  Which of these it is cannot depend on the parenthesis, as it is
neither a dash nor a bracket. -/
theorem closable_readSetItem : Closable readSetItem := by
  intro text item rest h
  obtain ⟨⟨first, after⟩, hfirst, h⟩ := bind_eq_ok_iff.1 h
  refine bind_eq_ok_iff.2 ⟨(first, after ++ [')']), closable_readSetAtom hfirst, ?_⟩
  dsimp only at h ⊢
  split at h
  next tail =>
    obtain ⟨item, hitem, h⟩ := bind_eq_ok_iff.1 h
    cases h
    exact bind_eq_ok_iff.2 ⟨item, hitem, rfl⟩
  next tail =>
    obtain ⟨item, hitem, h⟩ := bind_eq_ok_iff.1 h
    cases h
    exact bind_eq_ok_iff.2 ⟨item, hitem, rfl⟩
  next tail hclose hdash =>
    -- A range: its second character has been read, so that the dash does not end the text.
    obtain ⟨⟨last, after⟩, hlast, hrange⟩ := bind_eq_ok_iff.1 h
    split
    next other heq =>
      exact (ne_append_close [']'] (by decide) hclose other (List.cons.inj heq).2).elim
    next other heq =>
      exact (ne_append_close ['-'] (by decide) hdash other (List.cons.inj heq).2).elim
    next _ _ heq =>
      obtain rfl := (List.cons.inj heq).2
      refine bind_eq_ok_iff.2 ⟨_, closable_readSetAtom hlast, ?_⟩
      dsimp only at hrange ⊢
      split at hrange
      next a b _ _ =>
        split at hrange
        next hab =>
          cases hrange
          exact if_pos hab
        next => cases hrange
      next => cases hrange
    next hother => exact (hother _ rfl).elim
  next hclose hdash hrange =>
    obtain ⟨item, hitem, h⟩ := bind_eq_ok_iff.1 h
    cases h
    have hother := ne_append_close ['-'] (by decide) hrange
    split
    next heq => exact (hother _ heq).elim
    next heq => exact (hother _ heq).elim
    next heq => exact (hother _ heq).elim
    next => exact bind_eq_ok_iff.2 ⟨item, hitem, rfl⟩

/-- A caret is found or not, and the parenthesis is left over. -/
theorem negation_append_close (text : List Char) :
    negation (text ++ [')']) = ((negation text).1, (negation text).2 ++ [')']) := by
  fun_cases negation text with
  | case1 rest => rfl
  | case2 _ hcaret => exact negation.eq_2 _ (ne_append_close ['^'] (by decide) hcaret)

/-- The dashes at the start of a set end before the parenthesis. -/
theorem OpenSet.literalStart_append_close (negated : Bool) (text : List Char) :
    literalStart negated (text ++ [')']) =
      ((literalStart negated text).1, (literalStart negated text).2 ++ [')']) := by
  have hdash := stops_at_close (· == '-') (by decide)
  simp only [literalStart, takeWhile_append_left hdash, dropWhile_append_left hdash]
  generalize text.takeWhile (· == '-') = dashes
  generalize text.dropWhile (· == '-') = after
  cases dashes with
  | cons => rfl
  | nil =>
    cases after with
    | nil => rfl
    | cons c after => by_cases hc : c = ']' <;> simp [hc]

/-- The start of a set is read from any text: unlike the other readers, this one cannot fail. -/
theorem OpenSet.start_append_close (text : List Char) :
    start (text ++ [')']) = ((start text).1, (start text).2 ++ [')']) := by
  rw [start, start, negation_append_close, literalStart_append_close]

/-- A class with a name is found or not.  Where it is not found, the bracket before it opens a set,
so that this reader, too, has to give the same answer in both cases. -/
theorem namedClass?_append_close (negated : Bool) (text : List Char) :
    namedClass? negated (text ++ [')']) =
      (namedClass? negated text).map fun x => (x.1, x.2 ++ [')']) := by
  rw [namedClass?, namedClass?]
  cases hstop : text.dropWhile (· != ':') with
  | nil =>
    rw [List.dropWhile_append, hstop]
    rfl
  | cons c after =>
    -- The name ends inside the text; whether the colon and the bracket follow is seen there, too.
    rw [dropWhile_append_of_stop hstop, takeWhile_append_of_stop hstop]
    rcases after with _ | ⟨d, after⟩
    · by_cases hc : c = ':' <;> simp [hc]
    · by_cases hc : c = ':' <;> by_cases hd : d = ']' <;> simp [hc, hd, Function.comp_def]

theorem readAsciiClass?_append_close (text : List Char) :
    readAsciiClass? (text ++ [')']) =
      (readAsciiClass? text).map fun x => (x.1, x.2 ++ [')']) := by
  rw [readAsciiClass?, readAsciiClass?, negation_append_close, namedClass?_append_close]

/-- The rest of a set, by induction on the steps.  These may be more for the longer text, since
their number is taken from its length. -/
theorem readSet_append_close (extra : Nat) {steps : Nat} {s : OpenSet} {outer : List OpenSet}
    {text rest : List Char} {part : SetPart} (h : readSet steps s outer text = .ok (part, rest)) :
    readSet (steps + extra) s outer (text ++ [')']) = .ok (part, rest ++ [')']) := by
  induction steps, s, outer, text using readSet.induct with
  | case1 => cases h
  | case2 => cases h
  | case3 steps s text =>
    -- The bracket that closes the whole set: what follows it is left over.
    cases h
    rw [Nat.succ_add]
    rfl
  | case4 steps s text parent outer ih =>
    rw [Nat.succ_add]
    exact ih h
  -- The next three cases: a class with a name, or a set, with or without a colon at its start.
  | case5 steps s outer name cls text hcls ih =>
    rw [readSet.eq_5, hcls] at h
    rw [Nat.succ_add, List.cons_append, List.cons_append, readSet.eq_5,
      readAsciiClass?_append_close, hcls]
    exact ih h
  | case6 steps s outer name hcls nested ih =>
    rw [readSet.eq_5, hcls] at h
    rw [Nat.succ_add, List.cons_append, List.cons_append, readSet.eq_5,
      readAsciiClass?_append_close, hcls, ← List.cons_append, OpenSet.start_append_close]
    exact ih h
  | case7 steps s outer text nested hcolon ih =>
    rw [readSet.eq_6 _ _ _ _ hcolon] at h
    rw [Nat.succ_add, List.cons_append,
      readSet.eq_6 _ _ _ _ (ne_append_close [':'] (by decide) hcolon), OpenSet.start_append_close]
    exact ih h
  | case8 steps s outer text ih =>
    rw [Nat.succ_add]
    exact ih h
  | case9 steps s outer text ih =>
    rw [Nat.succ_add]
    exact ih h
  | case10 steps s outer text ih =>
    rw [Nat.succ_add]
    exact ih h
  | case11 steps s outer text hnil hclose hopen hand hminus htilde ih =>
    -- An item, as none of the marks of the other cases is there.
    rw [readSet.eq_10 _ _ _ _ hnil hclose hopen hand hminus htilde] at h
    obtain ⟨⟨item, text⟩, hitem, h⟩ := bind_eq_ok_iff.1 h
    rw [Nat.succ_add, readSet.eq_10 _ _ _ _ (by simp)
      (ne_append_close [']'] (by decide) hclose) (ne_append_close ['['] (by decide) hopen)
      (ne_append_close ['&', '&'] (by decide) hand) (ne_append_close ['-', '-'] (by decide) hminus)
      (ne_append_close ['~', '~'] (by decide) htilde)]
    exact bind_eq_ok_iff.2 ⟨_, closable_readSetItem hitem, ih item text h⟩

/-- A set as a whole, with as many steps as its text has characters. -/
theorem closable_readBracket : Closable readBracket := by
  intro text a rest h
  rw [readBracket] at h ⊢
  rw [OpenSet.start_append_close]
  generalize OpenSet.start text = start at h ⊢
  obtain ⟨⟨part, rest⟩, hset, h⟩ := bind_eq_ok_iff.1 h
  cases h
  refine bind_eq_ok_iff.2 ⟨(part, rest ++ [')']), ?_, rfl⟩
  rw [List.length_append, Nat.add_right_comm]
  exact readSet_append_close _ hset

/-! ## Repetition marks

A repetition mark may be followed by a question mark, which belongs to it.  A counted one has
numbers, blanks and a comma, and ends at its closing brace. -/

/-- A parenthesis is no question mark. -/
theorem closable_readLazy (least : Nat) (most : Option Nat) :
    Closable fun text => .ok (readLazy least most text) := by
  intro text piece rest
  dsimp only
  fun_cases readLazy least most text with
  | case1 text =>
    intro h
    cases h
    rfl
  | case2 text hmark =>
    intro h
    cases h
    exact congrArg Except.ok (readLazy.eq_2 _ _ _ (ne_append_close ['?'] (by decide) hmark))

/-- A number with blanks around it ends before the parenthesis, which is neither a blank nor a
digit. -/
theorem closable_readCount : Closable readCount := by
  intro text n rest h
  have hblank : ∀ text, skipBlank (text ++ [')']) = skipBlank text ++ [')'] :=
    dropWhile_append_left (stops_at_close isBlank (by decide))
  have hdigit := stops_at_close Char.isDigit (by decide)
  simp only [readCount] at h ⊢
  rw [hblank, takeWhile_append_left hdigit, dropWhile_append_left hdigit, hblank]
  split at h
  next => cases h
  next hgood =>
    cases h
    exact if_neg hgood

/-- One count, a count and a comma, or two counts, each of these up to the closing brace. -/
theorem closable_readCounted : Closable readCounted := by
  intro text piece rest h
  obtain ⟨⟨n, after⟩, hn, h⟩ := bind_eq_ok_iff.1 h
  refine bind_eq_ok_iff.2 ⟨_, closable_readCount hn, ?_⟩
  split at h
  next n after heq =>
    cases heq
    exact closable_readLazy n (some n) h
  next n after heq =>
    cases heq
    exact closable_readLazy n none h
  next n after hclose heq =>
    -- A second count: the reader decides for it as no closing brace follows the comma.
    cases heq
    obtain ⟨⟨m, last⟩, hm, hcount⟩ := bind_eq_ok_iff.1 h
    split
    next heq => cases heq
    next _ after' heq =>
      exact (ne_append_close ['}'] (by decide) hclose after'
        (List.cons.inj (Prod.mk.inj heq).2).2).elim
    next _ _ _ heq =>
      cases heq
      refine bind_eq_ok_iff.2 ⟨_, closable_readCount hm, ?_⟩
      split at hcount
      next m last heq =>
        cases heq
        split at hcount
        next hle => exact (if_pos hle).trans (closable_readLazy n (some m) hcount)
        next => cases hcount
      next => cases hcount
    next hother => exact (hother _ _ rfl).elim
  next => cases h

/-! ## Groups

After an opening parenthesis there may be a question mark, and then a name in angle brackets or
flags.  Flags end at a colon, or at the parenthesis that makes them a piece of their own: for them
the parenthesis after the text is not just any character, and it matters that flags must not end
with the text. -/

/-- A name ends at its angle bracket. -/
theorem closable_readName : Closable readName := by
  intro text piece rest
  fun_cases readName text with
  | case1 first more _ after hstop hname hgood =>
    intro h
    cases h
    rw [readName, takeWhile_append_of_stop hstop, dropWhile_append_of_stop hstop, hname]
    exact if_pos hgood
  | case2 => intro h; cases h
  | case3 => intro h; cases h

section Flags

variable {text : List Char} (hahead : ∀ rest, text = '=' :: rest → False)
  (hnotAhead : ∀ rest, text = '!' :: rest → False)
  (hbehind : ∀ rest, text = '<' :: '=' :: rest → False)
  (hnotBehind : ∀ rest, text = '<' :: '!' :: rest → False)
  (hpython : ∀ rest, text = 'P' :: '<' :: rest → False)
  (hname : ∀ rest, text = '<' :: rest → False)

include hahead hnotAhead hbehind hnotBehind hpython hname

/-- Where a group does not begin in any other way, its flags come first. -/
theorem readGroup_flags_append_close {c : Char} {after : List Char}
    (hstop : text.dropWhile (fun c => c != ':' && c != ')') = c :: after) :
    readGroup ('?' :: text ++ [')']) =
      match text.takeWhile (fun c => c != ':' && c != ')'), c :: (after ++ [')']) with
      | letters, ':' :: rest =>
        (readFlags letters).map fun change => (.openGroup (.plain change), rest)
      | [], _ => .error .badFlags
      | letters, ')' :: rest => (readFlags letters).map fun change => (.setFlags change, rest)
      | _, _ => .error .unclosedGroup := by
  -- None of the other ways to begin a group comes about by the parenthesis.
  have hread := readGroup.eq_7 _ (ne_append_close ['='] (by decide) hahead)
    (ne_append_close ['!'] (by decide) hnotAhead) (ne_append_close ['<', '='] (by decide) hbehind)
    (ne_append_close ['<', '!'] (by decide) hnotBehind)
    (ne_append_close ['P', '<'] (by decide) hpython) (ne_append_close ['<'] (by decide) hname)
  rw [takeWhile_append_of_stop hstop, dropWhile_append_of_stop hstop] at hread
  exact hread

end Flags

/-- What follows an opening parenthesis. -/
theorem closable_readGroup : Closable readGroup := by
  intro text piece rest
  -- Look-around is refused, and so are flags that end with the text and those without a letter.
  fun_cases readGroup text with
  | case1 | case2 | case3 | case4 | case8 | case10 => intro h; cases h
  | case5 text => exact fun h => closable_readName h
  | case6 text hahead hnot =>
    intro h
    exact (readGroup.eq_6 _ (ne_append_close ['='] (by decide) hahead)
      (ne_append_close ['!'] (by decide) hnot)).trans (closable_readName h)
  -- Flags before a colon, and flags before a parenthesis.
  | case7 text hahead hnotAhead hbehind hnotBehind hpython hname isLetter after hstop =>
    intro h
    obtain ⟨change, hchange, heq⟩ := map_eq_ok_iff.1 h
    cases heq
    rw [readGroup_flags_append_close hahead hnotAhead hbehind hnotBehind hpython hname hstop]
    exact map_eq_ok_iff.2 ⟨change, hchange, rfl⟩
  | case9 text hahead hnotAhead hbehind hnotBehind hpython hname isLetter after hstop hletters =>
    intro h
    obtain ⟨change, hchange, heq⟩ := map_eq_ok_iff.1 h
    cases heq
    obtain ⟨c, more, hmore⟩ := List.exists_cons_of_ne_nil hletters
    rw [hmore] at hchange
    simp only [isLetter] at hmore
    rw [readGroup_flags_append_close hahead hnotAhead hbehind hnotBehind hpython hname hstop, hmore]
    exact map_eq_ok_iff.2 ⟨change, hchange, rfl⟩
  | case11 text _ _ _ _ _ _ hmark =>
    -- A numbered group: no question mark follows, and all other cases begin with one.
    intro h
    cases h
    have hother := ne_append_close ['?'] (by decide) hmark
    exact readGroup.eq_8 _ (fun _ => hother _) (fun _ => hother _) (fun _ => hother _)
      (fun _ => hother _) (fun _ => hother _) (fun _ => hother _) hother

/-! ## The whole pattern -/

/-- Every piece is read by one of the readers above, or is its character alone. -/
theorem closable_readPiece (c : Char) : Closable (readPiece c) := by
  intro text piece rest
  fun_cases readPiece c text with
  | case1 => exact fun h => closable_readGroup h
  | case4 => exact fun h => closable_readLazy 0 (some 1) h
  | case5 => exact fun h => closable_readLazy 0 none h
  | case6 => exact fun h => closable_readLazy 1 none h
  | case7 => exact fun h => closable_readCounted h
  | case8 => exact fun h => closable_readBracket.map Piece.atom h
  | case9 => exact fun h => closable_readEscape.map Piece.atom h
  | case13 =>
    intro h
    cases h
    rw [readPiece.eq_13] <;> assumption
  | case2 | case3 | case10 | case11 | case12 =>
    intro h
    cases h
    rfl

/-- The pieces of a text are the same before a parenthesis, which is one piece more.  As for sets,
the number of steps may be larger for the longer text. -/
theorem readPieces_append_close (extra : Nat) {steps : Nat} {text : List Char} {ps : List Piece}
    (h : readPieces steps text = .ok ps) :
    readPieces (steps + 1 + extra) (text ++ [')']) = .ok (ps ++ [.closeGroup]) := by
  induction steps, text using readPieces.induct generalizing ps with
  | case1 steps =>
    -- The text has come to its end, and the parenthesis is read as the last piece.
    rw [readPieces] at h
    cases h
    rw [Nat.succ_add]
    simp [readPieces, readPiece]
  | case2 => cases h
  | case3 steps c text ih =>
    obtain ⟨⟨piece, rest⟩, hpiece, h⟩ := bind_eq_ok_iff.1 h
    obtain ⟨more, hmore, h⟩ := bind_eq_ok_iff.1 h
    cases h
    rw [Nat.succ_add]
    refine bind_eq_ok_iff.2 ⟨_, closable_readPiece c hpiece, ?_⟩
    exact bind_eq_ok_iff.2 ⟨_, ih rest hmore, rfl⟩

/-- **The pieces of a pattern text in a group after a caret** are those of the text, between the
pieces of the frame. -/
theorem pieces_framed {text : List Char} {ps : List Piece} (h : pieces text = .ok ps) :
    pieces ('^' :: '(' :: '?' :: ':' :: (text ++ [')'])) =
      .ok (.atom .caret :: .openGroup (.plain []) :: (ps ++ [.closeGroup])) := by
  have hlength : ('^' :: '(' :: '?' :: ':' :: (text ++ [')'])).length =
      text.length + 1 + 2 + 1 + 1 := by
    rw [List.length_cons, List.length_cons, List.length_cons, List.length_cons, List.length_append]
    rfl
  have hgroup : readPiece '(' ('?' :: ':' :: (text ++ [')'])) =
      .ok (.openGroup (.plain []), text ++ [')']) := rfl
  rw [pieces, hlength]
  refine bind_eq_ok_iff.2 ⟨_, rfl, bind_eq_ok_iff.2 ⟨_, ?_, rfl⟩⟩
  refine bind_eq_ok_iff.2 ⟨_, hgroup, bind_eq_ok_iff.2 ⟨_, ?_, rfl⟩⟩
  exact readPieces_append_close 2 h

/-! ## Counts

The readers of repetition marks see to it that a limit can be reached.  The marks `?`, `*` and `+`
have counts of their own, and of two counts in braces the first one must not be larger. -/

/-- A repetition mark with a limit has one that can be reached. -/
def Piece.wellCounted : Piece → Bool
  | .times least most _ => most.all (least ≤ ·)
  | _ => true

/-- A question mark after a repetition mark does not change its counts. -/
theorem wellCounted_of_readLazy {least : Nat} {most : Option Nat} {text rest : List Char}
    {piece : Piece} (h : (.ok (readLazy least most text) : Except Error _) = .ok (piece, rest))
    (hcount : most.all (least ≤ ·) = true) : piece.wellCounted = true := by
  revert h
  fun_cases readLazy least most text <;> intro h <;> cases h <;> exact hcount

/-- A single count is both the least and the most; of two, the reader compares them itself. -/
theorem wellCounted_of_readCounted {text rest : List Char} {piece : Piece}
    (h : readCounted text = .ok (piece, rest)) : piece.wellCounted = true := by
  obtain ⟨⟨n, after⟩, -, h⟩ := bind_eq_ok_iff.1 h
  split at h
  next => exact wellCounted_of_readLazy h (by simp)
  next => exact wellCounted_of_readLazy h rfl
  next =>
    obtain ⟨⟨m, last⟩, -, h⟩ := bind_eq_ok_iff.1 h
    split at h
    next =>
      split at h
      next hle => exact wellCounted_of_readLazy h (by simpa using hle)
      next => cases h
    next => cases h
  next => cases h

/-! The start of a group is no repetition mark, whatever it is. -/

theorem wellCounted_of_readName {text rest : List Char} {piece : Piece}
    (h : readName text = .ok (piece, rest)) : piece.wellCounted = true := by
  revert h
  fun_cases readName text <;> intro h <;> cases h
  rfl

theorem wellCounted_of_readGroup {text rest : List Char} {piece : Piece}
    (h : readGroup text = .ok (piece, rest)) : piece.wellCounted = true := by
  revert h
  fun_cases readGroup text with
  | case5 | case6 => exact wellCounted_of_readName
  | case7 | case9 =>
    intro h
    obtain ⟨change, -, heq⟩ := map_eq_ok_iff.1 h
    cases heq
    rfl
  | case11 =>
    intro h
    cases h
    rfl
  | _ => intro h; cases h

theorem wellCounted_of_readPiece {c : Char} {text rest : List Char} {piece : Piece}
    (h : readPiece c text = .ok (piece, rest)) : piece.wellCounted = true := by
  revert h
  fun_cases readPiece c text with
  | case1 => exact wellCounted_of_readGroup
  | case4 | case5 | case6 => exact fun h => wellCounted_of_readLazy h rfl
  | case7 => exact wellCounted_of_readCounted
  | case8 | case9 =>
    intro h
    obtain ⟨x, -, heq⟩ := map_eq_ok_iff.1 h
    cases heq
    rfl
  | _ =>
    intro h
    cases h
    rfl

/-- **All repetition marks of a text are in order.** -/
theorem wellCounted_of_readPieces {steps : Nat} {text : List Char} {ps : List Piece}
    (h : readPieces steps text = .ok ps) : ∀ piece ∈ ps, piece.wellCounted = true := by
  induction steps, text using readPieces.induct generalizing ps with
  | case1 steps =>
    rw [readPieces] at h
    cases h
    exact List.forall_mem_nil _
  | case2 => cases h
  | case3 steps c text ih =>
    obtain ⟨⟨piece, rest⟩, hpiece, h⟩ := bind_eq_ok_iff.1 h
    obtain ⟨more, hmore, h⟩ := bind_eq_ok_iff.1 h
    cases h
    exact List.forall_mem_cons.2 ⟨wellCounted_of_readPiece hpiece, ih rest hmore⟩

end EditorMode.Regex
