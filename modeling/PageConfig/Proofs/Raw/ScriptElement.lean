import PageConfig.Proofs.Pattern.Preference
import PageConfig.Proofs.Raw.ScriptFree

/-!
# Script elements

The first round takes a script element out whole. Its opening tag ends where its
attributes do, the body runs to the first closing tag, and that tag cannot begin in the
body and end beyond it. From then on the rounds are those of the text without the element.
-/

set_option autoImplicit false

namespace PageConfig

namespace Script

open Pattern Cursor

def closing : Pattern :=
  sequence [oneOf ['<'], blanks, oneOf ['/'], blanks, word "script", blanks, oneOf ['>']]

section Search

variable {β : Type} {after : Cursor → Option β} {c d : Cursor}

theorem search_word {w : String} (hs : c.Reads w.toList d)
    (hw : ∀ ch ∈ w.toList, (caseVariants ch).contains ch = true) :
    (word w).search after c = after d := by
  rw [word, search_sequence]
  generalize w.toList = cs at hs hw
  induction cs generalizing c with
  | nil => rw [reads_nil.1 hs]; rfl
  | cons ch cs ih =>
    obtain ⟨hch, hcs⟩ := List.forall_mem_cons.1 hw
    obtain ⟨e, he, hs⟩ := reads_cons.1 hs
    rw [List.map_cons, List.foldr_cons, oneOf, search_one he, hch, if_pos rfl]
    exact ih hs hcs

theorem search_blanks {ch : Char} {s : List Char} (h : c.Reads (ch :: s) d)
    (hch : isBlank ch = false) : blanks.search after c = after c :=
  search_many (reads_nil.2 rfl) nofun (fun _ _ ha => h.head_eq ha ▸ hch) nofun

end Search

theorem script_variants : ∀ ch ∈ "script".toList,
    (caseVariants ch).contains ch = true ∧ (caseVariants ch).contains '<' = false := by
  have hall : "script".toList.all fun ch =>
      (caseVariants ch).contains ch && !(caseVariants ch).contains '<' := by decide
  intro ch hch
  have hvariants := List.all_eq_true.1 hall ch hch
  rwa [Bool.and_eq_true, Bool.not_eq_true'] at hvariants

theorem search_script {β : Type} {after : Cursor → Option β} {c d : Cursor}
    (h : c.Reads "script".toList d) : (word "script").search after c = after d :=
  search_word h fun ch hch => (script_variants ch hch).1

theorem search_blanks_script {β : Type} {after : Cursor → Option β} {c d : Cursor}
    (h : c.Reads "script".toList d) : blanks.search after c = after c := by
  have hletter : c.Reads ('s' :: "cript".toList) d := h
  exact search_blanks hletter (by decide)

theorem search_block (c : Cursor) : block.search some c =
    (oneOf ['<']).search (blanks.search ((word "script").search (wordEdge.search
      ((many (others '>')).search ((oneOf ['>']).search
        (anything.search (closing.search some))))))) c := by
  rw [block, closing, search_sequence, search_sequence]
  rfl

theorem search_opening {c d : Cursor} {attributes : List Char}
    (hs : c.Reads ('<' :: "script".toList ++ attributes ++ ['>']) d) (hend : '>' ∉ attributes)
    (hstart : ∀ ch ∈ attributes.head?, isWord ch = false) :
    block.search some c = anything.search (closing.search some) d := by
  obtain ⟨c₃, hs, hclose⟩ := reads_append.1 hs
  obtain ⟨c₂, hs, hattributes⟩ := reads_append.1 hs
  obtain ⟨c₁, hopen, hname⟩ := reads_cons.1 hs
  have hbefore : c₂.before.any isWord = true := by
    rw [hname.before]
    rfl
  have hnext : c₂.rest.head?.any isWord = false := by
    rw [(hattributes.trans hclose).rest]
    cases attributes with
    | nil => rfl
    | cons ch s => exact hstart ch rfl
  have hedge : (c₂.before.any isWord != c₂.rest.head?.any isWord) = true := by
    rw [hbefore, hnext]
    rfl
  rw [search_block, search_oneOf hopen, search_blanks_script hname,
    search_script hname, wordEdge, search_look hedge, others, search_many hattributes]
  · exact search_oneOf hclose
  · intro ch hch
    exact decide_eq_true fun h => hend (h ▸ hch)
  · intro ch e he
    rw [hclose.head_eq he]
    rfl
  · intro ch hch e f hf
    rw [oneOf, search_one hf]
    have hother : ch ≠ '>' := fun h => hend (h ▸ hch)
    simp [hother]

theorem search_closing {c d : Cursor} (h : c.Reads ('<' :: '/' :: "script".toList ++ ['>']) d) :
    closing.search some c = some d := by
  obtain ⟨c₃, h, hclose⟩ := reads_append.1 h
  obtain ⟨c₁, hopen, h⟩ := reads_cons.1 h
  obtain ⟨c₂, hslash, hname⟩ := reads_cons.1 h
  rw [closing, search_sequence]
  simp only [List.foldr_cons, List.foldr_nil]
  rw [search_oneOf hopen, search_blanks hslash (by decide), search_oneOf hslash,
    search_blanks_script hname, search_script hname, search_blanks hclose (by decide),
    search_oneOf hclose]

theorem closing_reads {c d : Cursor} {s : List Char} (h : closing.Spans c d)
    (hs : c.Reads s d) : ∃ t, s = '<' :: t ∧ '<' ∉ t := by
  obtain ⟨e, he, hd⟩ := spans_sequence_cons.1 h
  obtain ⟨t, ht⟩ := hd.reads
  have hword : (word "script").Avoids '<' := by
    apply avoids_sequence
    intro p hp
    obtain ⟨ch, hch, rfl⟩ := List.mem_map.1 hp
    exact avoids_one (script_variants ch hch).2
  have hblanks : blanks.Avoids '<' := avoids_many_one (by decide)
  have hrest : (sequence [blanks, oneOf ['/'], blanks, word "script", blanks,
      oneOf ['>']]).Avoids '<' := by
    apply avoids_sequence
    simp only [List.forall_mem_cons]
    exact ⟨hblanks, avoids_oneOf (by decide), hblanks, hword, hblanks, avoids_oneOf (by decide),
      nofun⟩
  exact ⟨t, hs.text_unique ((spans_oneOf.1 he).trans ht), hrest hd ht⟩

theorem blind_closing : closing.Blind := by
  have hword : (word "script").Blind := by
    apply blind_sequence
    intro p hp
    obtain ⟨ch, -, rfl⟩ := List.mem_map.1 hp
    trivial
  apply blind_sequence
  simp only [List.forall_mem_cons]
  exact ⟨trivial, trivial, trivial, trivial, hword, trivial, trivial, nofun⟩

theorem not_spans_closing {c d e f : Cursor} {body : List Char} (hbody : ¬ closing.Occurs body)
    (hd : c.Reads body d) (hopen : d.Reads ['<'] f) (he : c.Amid body e) (m : Cursor) :
    ¬ closing.Spans e m := by
  intro hspan
  obtain ⟨s, hs⟩ := hspan.reads
  obtain ⟨t, rfl, ht⟩ := closing_reads hspan hs
  obtain ⟨ch, u, -, hu, before, rfl⟩ := he.reads hd
  have hinside : ∃ v, ch :: u = '<' :: t ++ v := by
    rcases hs.split hu with ⟨v, hv, -⟩ | ⟨v, hv, hm⟩
    · exact ⟨v, hv⟩
    · obtain ⟨rfl, rfl⟩ := List.cons.inj hv
      cases v with
      | nil => exact ⟨[], by simp⟩
      | cons a v =>
        -- the tag would go on with the angle bracket after the body
        obtain ⟨g, hg, -⟩ := reads_cons.1 hm
        rw [← hopen.head_eq hg] at ht
        exact absurd (by simp) ht
  obtain ⟨v, hv⟩ := hinside
  rw [hv] at hbody
  obtain ⟨e', he', hrest⟩ := exists_reads (c := .start (before ++ ('<' :: t ++ v))) rfl
  obtain ⟨m', hm', -⟩ := exists_reads hrest
  exact hbody ⟨e', m', he'.leads, blind_closing.portable hspan hs hm'⟩

/-- A script element, written without blanks in its tags but those of the attributes. -/
def element (attributes body : List Char) : List Char :=
  '<' :: "script".toList ++ attributes ++ ['>'] ++ body ++ ('<' :: '/' :: "script".toList ++ ['>'])

/-- The first match in an element is the element. -/
theorem search_element {c d : Cursor} {attributes body : List Char}
    (hs : c.Reads (element attributes body) d) (hend : '>' ∉ attributes)
    (hstart : ∀ ch ∈ attributes.head?, isWord ch = false)
    (hbody : ¬ closing.Occurs body) : block.search some c = some d := by
  obtain ⟨c₂, hs, hclose⟩ := reads_append.1 hs
  obtain ⟨c₁, hopen, hread⟩ := reads_append.1 hs
  obtain ⟨f, hbracket, -⟩ := reads_cons.1 hclose
  rw [search_opening hopen hend hstart]
  apply search_anything hread (fun e he => ?_) (search_closing hclose)
  exact search_eq_none_iff.2 fun m hm =>
    absurd hm (not_spans_closing hbody hread hbracket he m)

theorem not_spans_block {c d e : Cursor} {s : List Char} (hs : '<' ∉ s) (hd : c.Reads s d)
    (he : c.Amid s e) (f : Cursor) : ¬ block.Spans e f := by
  intro hspan
  obtain ⟨ch, u, hch, hu, -⟩ := he.reads hd
  obtain ⟨m, hm, -⟩ := spans_sequence_cons.1 hspan
  rw [← hu.head_eq (spans_oneOf.1 hm)] at hch
  exact hs hch

theorem block_needs : block.Needs '<' := sequence_needs List.mem_cons_self (oneOf_needs '<')

theorem block_consuming : block.Consuming := patterns_consuming block List.mem_cons_self

theorem remove_block {s : List Char} (h : '<' ∉ s) : block.remove s = s :=
  (remove_eq_self_iff block_consuming s).2 (not_occurs_of_needs block_needs h)

section Element

variable {before attributes body after : List Char} (hbefore : '<' ∉ before)
  (hafter : '<' ∉ after) (hend : '>' ∉ attributes)
  (hstart : ∀ ch ∈ attributes.head?, isWord ch = false) (hbody : ¬ closing.Occurs body)

include hbefore hafter hend hstart hbody

theorem remove_element :
    block.remove (before ++ (element attributes body ++ after)) = before ++ after := by
  obtain ⟨c, hc, hrest⟩ := exists_reads
    (c := .start (before ++ (element attributes body ++ after))) rfl
  obtain ⟨d, hd, hlast⟩ := exists_reads hrest
  have hnone : block.removeFrom d = d.rest := by
    rw [removeFrom_eq_rest_iff block_consuming]
    exact not_spans_of_needs block_needs (hlast ▸ hafter)
  rw [remove, removeFrom_reads hc fun e he => not_spans_block hbefore hc he,
    removeFrom_of_search block_consuming (search_element hd hend hstart hbody), hnone, hlast]

theorem clean_element :
    clean (before ++ (element attributes body ++ after)) = clean (before ++ after) := by
  rw [← clean_round, ← clean_round (before ++ after), round, round]
  simp only [patterns, List.foldl_cons]
  rw [remove_element hbefore hafter hend hstart hbody, remove_block (by simp [hbefore, hafter])]

end Element

end Script

/-- A script element goes with its body, whatever that holds but a closing tag. Cleaning
makes of the text what it makes of the surroundings of the element. -/
theorem sanitizeText_element {before attributes body after : String}
    (hbefore : '<' ∉ before.toList) (hafter : '<' ∉ after.toList)
    (hend : '>' ∉ attributes.toList)
    (hstart : ∀ ch ∈ attributes.toList.head?, isWord ch = false)
    (hbody : ¬ Script.closing.Occurs body.toList) :
    sanitizeText (before ++ "<script" ++ attributes ++ ">" ++ body ++ "</script>" ++ after) =
      sanitizeText (before ++ after) := by
  have htext : (before ++ "<script" ++ attributes ++ ">" ++ body ++ "</script>" ++
      after).toList =
        before.toList ++ (Script.element attributes.toList body.toList ++ after.toList) := by
    simp [Script.element, String.toList_append]
  rw [sanitizeText, sanitizeText, htext, String.toList_append,
    Script.clean_element hbefore hafter hend hstart hbody]

theorem sanitizeText_element_nested :
    sanitizeText "Hello<script type=x>\n<b onclick=go()><SCRIPT src=a>alert(1)</script> world" =
      "Hello world" := by
  let body := "\n<b onclick=go()><SCRIPT src=a>alert(1)"
  have hneeds : Script.closing.Needs '/' :=
    Pattern.sequence_needs (List.mem_of_getElem? (i := 2) rfl) (Pattern.oneOf_needs '/')
  have hbody : ¬ Script.closing.Occurs body.toList :=
    Pattern.not_occurs_of_needs hneeds (by decide)
  have hstart : ∀ ch ∈ " type=x".toList.head?, isWord ch = false := by
    rintro ch ⟨⟩
    decide
  have hfree : ScriptFree "Hello world" := Script.free_of_unmarked (by simp)
  calc sanitizeText ("Hello" ++ "<script" ++ " type=x" ++ ">" ++ body ++ "</script>" ++ " world")
    _ = sanitizeText ("Hello" ++ " world") :=
      sanitizeText_element (by decide) (by decide) (by decide) hstart hbody
    _ = "Hello world" := (sanitizeText_eq_self_iff _).2 hfree

end PageConfig
