import VisualNovel.Json.Parser
import VisualNovel.Proofs.Json.Literals

/-!
# Written documents are read back

A text is read by the steps of a draft, one for each token (`Json.Draft.run`). A draft that expects
a value takes a written document as that value and goes on with the text behind it
(`Json.IsWritable.run_write`). The induction is on the document; what is open around it and the text
behind it are left free. White space between tokens does not count, so a document is read back from
every layout that consists of it.
-/

namespace VisualNovel.Json

/-- All numbers of the document are literals. -/
inductive IsWritable : Json → Prop
  | null : IsWritable .null
  | bool (b : Bool) : IsWritable (.bool b)
  | number {n : Number} (h : n.IsLiteral) : IsWritable (.number n)
  | string (text : Json.Text) : IsWritable (.string text)
  | array {items : List Json} (h : ∀ item ∈ items, IsWritable item) : IsWritable (.array items)
  | object {members : List (Json.Text × Json)} (h : ∀ member ∈ members, IsWritable member.2) :
      IsWritable (.object members)

/-- The layout consists of white space. -/
structure Layout.IsBlank (layout : Layout) : Prop where
  lineBreak : ∀ depth, ∀ c ∈ layout.lineBreak depth, isSpace c = true
  gap : ∀ c ∈ layout.gap, isSpace c = true

/-- The compact layout puts nothing between tokens. -/
theorem Layout.isBlank_compact : Layout.compact.IsBlank :=
  ⟨fun _ => nofun, nofun⟩

/-- The pretty layout puts white space only between tokens. -/
theorem Layout.isBlank_pretty : Layout.pretty.IsBlank where
  lineBreak _ := List.forall_mem_cons.2 ⟨rfl, fun _ hc => List.eq_of_mem_replicate hc ▸ rfl⟩
  gap := List.forall_mem_cons.2 ⟨rfl, nofun⟩

/-! ## Reading token by token -/

/-- The tokens of a text are its first token and those of what follows it. -/
theorem Token.scan_eq (cs : List Char) :
    Token.scan cs = match cs.dropWhile isSpace with
      | [] => some []
      | c :: rest => (Token.next? c rest).bind fun read => (Token.scan read.2).map (read.1 :: ·) := by
  rw [Token.scan]
  split
  · next hnil => rw [hnil]
  · next c rest hcons =>
    split
    · next hnone => simp only [hcons, hnone, Option.bind_none]
    · next hsome => simp only [hcons, hsome, Option.bind_some]

/-- The end of a word or number: a character that can stand in neither, or the end of the text. -/
def IsDelimited (rest : List Char) : Prop :=
  ∀ c ∈ rest.head?, isNumberChar c = false ∧ c.isLower = false

/-- A character that no number and no word goes on with ends them. -/
theorem isDelimited_cons {c : Char} {rest : List Char}
    (h : isNumberChar c = false ∧ c.isLower = false) : IsDelimited (c :: rest) :=
  fun _ hc => Option.some.inj hc ▸ h

/-- White space ends numbers and words. -/
theorem delimits_of_isSpace {c : Char} (h : isSpace c = true) :
    isNumberChar c = false ∧ c.isLower = false := by
  simp only [isSpace, Bool.or_eq_true, beq_iff_eq, or_assoc] at h
  rcases h with rfl | rfl | rfl | rfl <;> decide

/-- White space ends a word or number, and so does what follows it. -/
theorem isDelimited_append {blank rest : List Char} (hblank : ∀ c ∈ blank, isSpace c = true)
    (hrest : IsDelimited rest) : IsDelimited (blank ++ rest) := by
  cases blank with
  | nil => exact hrest
  | cons c blank => exact isDelimited_cons (delimits_of_isSpace (hblank c List.mem_cons_self))

/-- A number literal is one token. -/
theorem next?_number {c : Char} {cs rest : List Char} {n : Number}
    (hchars : ∀ d ∈ c :: cs, isNumberChar d = true) (hread : Number.ofChars? (c :: cs) = some n)
    (hrest : IsDelimited rest) : Token.next? c (cs ++ rest) = some (.number n, rest) := by
  obtain ⟨hc, hcs⟩ := List.forall_mem_cons.1 hchars
  obtain ⟨htake, hdrop⟩ := span_append hcs fun d hd => (hrest d hd).1
  unfold Token.next?
  split
  case h_8 => simp only [if_pos hc, htake, hdrop, hread, Option.bind_eq_bind, Option.bind_some]
  all_goals cases hc

/-- The words are made of letters. -/
theorem isLower_of_word? {c : Char} {cs : List Char} {t : Token} (h : word? (c :: cs) = some t) :
    isNumberChar c = false ∧ ∀ d ∈ c :: cs, d.isLower = true := by
  simp only [word?] at h
  split at h
  · next heq =>
    cases heq
    exact ⟨rfl, List.all_eq_true.1 rfl⟩
  · split at h
    · next heq =>
      cases heq
      exact ⟨rfl, List.all_eq_true.1 rfl⟩
    · split at h
      · next heq =>
        cases heq
        exact ⟨rfl, List.all_eq_true.1 rfl⟩
      · cases h

/-- A word is one token. -/
theorem next?_word {c : Char} {cs rest : List Char} {t : Token} (hword : word? (c :: cs) = some t)
    (hrest : IsDelimited rest) : Token.next? c (cs ++ rest) = some (t, rest) := by
  obtain ⟨hnumber, hlower⟩ := isLower_of_word? hword
  obtain ⟨hc, hcs⟩ := List.forall_mem_cons.1 hlower
  obtain ⟨htake, hdrop⟩ := span_append hcs fun d hd => (hrest d hd).2
  unfold Token.next?
  split
  case h_8 => simp [hnumber, htake, hdrop, hword]
  all_goals cases hc

namespace Draft

/-- Takes the tokens of a text. -/
def run (p : Draft) (cs : List Char) : Option Draft :=
  (Token.scan cs).bind (List.foldlM step p)

variable {p q : Draft} {stack : List Frame} {c : Char} {cs rest : List Char} {t : Token}

/-- At the end of the text the parser is where it was. -/
@[simp]
theorem run_nil : p.run [] = some p := by
  simp [run, Token.scan_eq]

/-- White space between tokens does not matter. -/
theorem run_blank {blank : List Char} (hblank : ∀ c ∈ blank, isSpace c = true) :
    p.run (blank ++ rest) = p.run rest := by
  rw [run, run, Token.scan_eq, List.dropWhile_append_of_pos hblank, ← Token.scan_eq]

/-- The first token is taken first. -/
theorem run_token (hspace : isSpace c = false) (hnext : Token.next? c cs = some (t, rest))
    (hstep : p.step t = some q) : p.run (c :: cs) = q.run rest := by
  have hdrop : (c :: cs).dropWhile isSpace = c :: cs := by
    rw [List.dropWhile_cons, if_neg (Bool.not_eq_true _ ▸ hspace)]
  rw [run, Token.scan_eq, hdrop]
  simp only [hnext, Option.bind_some]
  cases hscan : Token.scan rest with
  | none => simp [run, hscan]
  | some tokens => simp [run, hscan, hstep]

/-- A written text is read as one token. -/
theorem run_text {text : Json.Text} (hstep : p.step (.string text) = some q) :
    p.run (writeText text ++ rest) = q.run rest := by
  obtain ⟨body, hbody, hnext⟩ := next?_writeText text rest
  rw [hbody, run_token rfl hnext hstep]

/-- A written number is read as one token where something else follows. -/
theorem run_number {n : Number} (h : n.IsLiteral) (hrest : IsDelimited rest)
    (hstep : p.step (.number n) = some q) : p.run (n.chars ++ rest) = q.run rest := by
  have hread := Number.ofChars?_chars h
  have hchars := Number.isNumberChar_of_mem_chars h
  cases heq : n.chars with
  | nil =>
    rw [heq] at hread
    cases hread
  | cons c cs =>
    rw [heq] at hread hchars
    have hspace : isSpace c = false := Bool.eq_false_iff.2 fun hspace =>
      Bool.false_ne_true ((delimits_of_isSpace hspace).1.symm.trans (hchars c List.mem_cons_self))
    exact run_token hspace (next?_number hchars hread hrest) hstep

/-- A word is read as one token where no letter follows. -/
theorem run_word {word : List Char} (hword : word? word = some t) (hrest : IsDelimited rest)
    (hstep : p.step t = some q) : p.run (word ++ rest) = q.run rest := by
  cases word with
  | nil => cases hword
  | cons c cs =>
    have hlower : c.isLower = true := (isLower_of_word? hword).2 c List.mem_cons_self
    have hspace : isSpace c = false := Bool.eq_false_iff.2 fun hspace =>
      Bool.false_ne_true ((delimits_of_isSpace hspace).2.symm.trans hlower)
    exact run_token hspace (next?_word hword hrest) hstep

/-! ## Documents -/

/-- What comes next is a value, or the end of an array without items. -/
def ExpectsValue (p : Draft) (stack : List Frame) : Prop :=
  ∀ t, t ≠ .closeArray → p.step t = beginValue stack t

/-- What comes next is the name of a member, or the end of an object without members. -/
def ExpectsName (p : Draft) (stack : List Frame) : Prop :=
  ∀ t, t ≠ .closeObject → p.step t = beginMember stack t

/-- Behind a comma or a colon a value is expected. -/
theorem expectsValue_value (stack : List Frame) : ExpectsValue ⟨.value, stack⟩ stack :=
  fun _ _ => rfl

/-- At the start of an array a value is expected. -/
theorem expectsValue_firstItem (stack : List Frame) : ExpectsValue ⟨.firstItem, stack⟩ stack := by
  intro t ht
  simp only [step]
  split
  · exact absurd rfl ht
  · rfl

/-- Behind a comma in an object a name is expected. -/
theorem expectsName_name (stack : List Frame) : ExpectsName ⟨.name, stack⟩ stack :=
  fun _ _ => rfl

/-- At the start of an object a name is expected. -/
theorem expectsName_firstName (stack : List Frame) : ExpectsName ⟨.firstName, stack⟩ stack := by
  intro t ht
  simp only [step]
  split
  · exact absurd rfl ht
  · rfl

/-- A draft that expects a value takes the written document as that value. -/
def Takes (layout : Layout) (json : Json) : Prop :=
  ∀ p stack depth rest, ExpectsValue p stack → IsDelimited rest →
    p.run (json.write layout depth ++ rest) = run ⟨.after json, stack⟩ rest

section
variable {layout : Layout} (hlayout : layout.IsBlank) {depth outer : Nat}
include hlayout

/-- A comma or a closing bracket behind a break ends what stands in front of it. -/
theorem isDelimited_mark (hmark : isNumberChar c = false ∧ c.isLower = false) :
    IsDelimited (layout.lineBreak outer ++ c :: rest) :=
  isDelimited_append (hlayout.lineBreak outer) (isDelimited_cons hmark)

/-- The items of an array are taken one after another, and then the array is complete. -/
theorem run_items {item : Json} {items done : List Json}
    (htakes : ∀ other ∈ item :: items, Takes layout other)
    (hp : p.ExpectsValue (.array done :: stack)) :
    p.run (writeItems layout depth (item :: items) ++ (layout.lineBreak outer ++ ']' :: rest))
      = run ⟨.after (.array (done.reverse ++ item :: items)), stack⟩ rest := by
  induction items generalizing p item done with
  | nil =>
    obtain ⟨hitem, -⟩ := List.forall_mem_cons.1 htakes
    rw [writeItems, List.append_assoc, run_blank (hlayout.lineBreak depth),
      hitem _ _ depth _ hp (isDelimited_mark hlayout (by decide)),
      run_blank (hlayout.lineBreak outer), run_token rfl rfl rfl, List.reverse_cons]
  | cons next items ih =>
    obtain ⟨hitem, hitems⟩ := List.forall_mem_cons.1 htakes
    rw [writeItems, List.append_assoc, List.append_assoc, run_blank (hlayout.lineBreak depth),
      List.cons_append, hitem _ _ depth _ hp (isDelimited_cons (by decide)),
      run_token rfl rfl rfl, ih hitems (expectsValue_value _), List.reverse_cons,
      List.append_assoc, List.singleton_append]
    exact List.cons_ne_nil _ _

/-- A member is taken as its name and then its value. -/
theorem run_member {name : Json.Text} {value : Json} {done : List (Json.Text × Json)}
    (htakes : Takes layout value) (hp : p.ExpectsName (.object done :: stack))
    (hrest : IsDelimited rest) :
    p.run (writeMember layout depth (name, value) ++ rest)
      = run ⟨.after value, .member done name :: stack⟩ rest := by
  rw [writeMember, List.append_assoc, List.append_assoc, run_text (hp _ nofun), List.cons_append,
    run_token rfl rfl rfl, run_blank hlayout.gap,
    htakes _ _ depth _ (expectsValue_value _) hrest]

/-- The members of an object are taken one after another, and then the object is complete. -/
theorem run_members {member : Json.Text × Json} {members done : List (Json.Text × Json)}
    (htakes : ∀ other ∈ member :: members, Takes layout other.2)
    (hp : p.ExpectsName (.object done :: stack)) :
    p.run (writeMembers layout depth (member :: members) ++ (layout.lineBreak outer ++ '}' :: rest))
      = run ⟨.after (.object (done.reverse ++ member :: members)), stack⟩ rest := by
  induction members generalizing p member done with
  | nil =>
    obtain ⟨hmember, -⟩ := List.forall_mem_cons.1 htakes
    rw [writeMembers, List.append_assoc, run_blank (hlayout.lineBreak depth),
      run_member hlayout hmember hp (isDelimited_mark hlayout (by decide)),
      run_blank (hlayout.lineBreak outer), run_token rfl rfl rfl, List.reverse_cons]
  | cons next members ih =>
    obtain ⟨hmember, hmembers⟩ := List.forall_mem_cons.1 htakes
    rw [writeMembers, List.append_assoc, List.append_assoc, run_blank (hlayout.lineBreak depth),
      List.cons_append, run_member hlayout hmember hp (isDelimited_cons (by decide)),
      run_token rfl rfl rfl, ih hmembers (expectsName_name _), List.reverse_cons,
      List.append_assoc, List.singleton_append]
    exact List.cons_ne_nil _ _

end
end Draft

section
variable {layout : Layout} {json : Json}

/-- A written document is taken as the next value, whatever is open around it. -/
theorem IsWritable.takes (hlayout : layout.IsBlank) (h : json.IsWritable) :
    Draft.Takes layout json := by
  induction h with
  | null => exact fun p stack depth rest hp hrest => Draft.run_word rfl hrest (hp _ nofun)
  | bool b =>
    intro p stack depth rest hp hrest
    cases b <;> exact Draft.run_word rfl hrest (hp _ nofun)
  | number hliteral =>
    exact fun p stack depth rest hp hrest => Draft.run_number hliteral hrest (hp _ nofun)
  | string text => exact fun p stack depth rest hp _ => Draft.run_text (hp _ nofun)
  | @array items _ ih =>
    intro p stack depth rest hp hrest
    have hopen := hp .openArray nofun
    cases items with
    | nil => exact (Draft.run_token rfl rfl hopen).trans (Draft.run_token rfl rfl rfl)
    | cons item items =>
      simp only [write, List.cons_append, List.append_assoc, List.nil_append]
      rw [Draft.run_token rfl rfl hopen]
      exact Draft.run_items hlayout ih (Draft.expectsValue_firstItem _)
  | @object members _ ih =>
    intro p stack depth rest hp hrest
    have hopen := hp .openObject nofun
    cases members with
    | nil => exact (Draft.run_token rfl rfl hopen).trans (Draft.run_token rfl rfl rfl)
    | cons member members =>
      simp only [write, List.cons_append, List.append_assoc, List.nil_append]
      rw [Draft.run_token rfl rfl hopen]
      exact Draft.run_members hlayout ih (Draft.expectsName_firstName _)

/-- A document is read back from a text in which white space stands between its tokens. -/
theorem IsWritable.parse?_write (hlayout : layout.IsBlank) (h : json.IsWritable) :
    parse? (String.ofList (json.write layout 0)) = some json := by
  have hrun := h.takes hlayout .start [] 0 [] (Draft.expectsValue_value _) nofun
  rw [List.append_nil, Draft.run_nil, Draft.run] at hrun
  rw [parse?, String.toList_ofList]
  cases hscan : Token.scan (json.write layout 0) with
  | none => simp [hscan] at hrun
  | some tokens =>
    rw [hscan, Option.bind_some] at hrun
    simp [ofTokens?, hrun, Draft.finish?]

/-- What can be written is read back from the compact text. -/
theorem IsWritable.parse?_compact (h : json.IsWritable) : parse? json.compact = some json :=
  h.parse?_write Layout.isBlank_compact

/-- What can be written is read back from the pretty text. -/
theorem IsWritable.parse?_pretty (h : json.IsWritable) : parse? json.pretty = some json :=
  h.parse?_write Layout.isBlank_pretty

end
end VisualNovel.Json
