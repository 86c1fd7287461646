import Houfeng.Portability.Markdown
import Mathlib.Data.List.TakeWhile

/-!
# What an import makes of an exported document

An import takes away the section of included materials and nothing else the export wrote. It finds
the section by its heading line, so the argument is about the texts after newlines.
-/

namespace Houfeng.Portability

open Center List

/-! ## Texts after newlines -/

def newlineTails : Text → List Text
  | [] => []
  | c :: cs => if c = '\n' then cs :: newlineTails cs else newlineTails cs

@[simp] theorem newlineTails_nil : newlineTails [] = [] := rfl

@[simp] theorem newlineTails_newline (s : Text) :
    newlineTails ('\n' :: s) = s :: newlineTails s := rfl

theorem newlineTails_append (a b : Text) :
    newlineTails (a ++ b) = (newlineTails a).map (· ++ b) ++ newlineTails b := by
  induction a with
  | nil => rfl
  | cons c a ih =>
    by_cases hc : c = '\n'
    · subst hc
      simp [ih]
    · simp [newlineTails, hc, ih]

theorem newlineTails_line {a : Text} (h : '\n' ∉ a) (b : Text) :
    newlineTails (a ++ b) = newlineTails b := by
  induction a with
  | nil => rfl
  | cons c a ih =>
    rw [mem_cons, not_or] at h
    simp [newlineTails, Ne.symm h.1, ih h.2]

theorem newlineTails_suffix {s r : Text} (h : r ∈ newlineTails s) : r <:+ s := by
  induction s with
  | nil => cases h
  | cons c s ih =>
    by_cases hc : c = '\n'
    · rw [newlineTails, if_pos hc, mem_cons] at h
      rcases h with rfl | h
      · exact suffix_cons c r
      · exact (ih h).trans (suffix_cons c s)
    · rw [newlineTails, if_neg hc] at h
      exact (ih h).trans (suffix_cons c s)

section

variable {h s Y Z : Text}

/-- A line is not found exactly when it starts after no newline. -/
theorem cutAt_eq_none : cutAt ('\n' :: h) s = none ↔ ∀ r ∈ newlineTails s, ¬ h <+: r := by
  induction s with
  | nil => simp [cutAt, newlineTails]
  | cons c s ih =>
    by_cases hc : c = '\n'
    · subst hc
      rw [newlineTails_newline, forall_mem_cons, ← ih, ← isPrefixOf_iff_prefix]
      cases hs : h.isPrefixOf s <;> simp [cutAt, hs]
    · simp [newlineTails, hc, ← ih, cutAt, Ne.symm hc]

theorem cutAt_append (hno : ∀ r ∈ newlineTails Y, ¬ h <+: r ++ '\n' :: (h ++ Z)) :
    cutAt ('\n' :: h) (Y ++ '\n' :: (h ++ Z)) = some (Y, Z) := by
  induction Y with
  | nil =>
    have hself : h.isPrefixOf (h ++ Z) = true := isPrefixOf_iff_prefix.mpr ⟨Z, rfl⟩
    simp [cutAt, hself]
  | cons c Y ih =>
    by_cases hc : c = '\n'
    · subst hc
      simp only [newlineTails_newline, mem_cons, forall_eq_or_imp] at hno
      have hs := hno.1
      rw [← isPrefixOf_iff_prefix, Bool.not_eq_true] at hs
      simp [cutAt, hs, ih hno.2]
    · rw [newlineTails, if_neg hc] at hno
      simp [cutAt, Ne.symm hc, ih hno]

theorem cutAt_eq_some {part before rest : Text} (h : cutAt part s = some (before, rest)) :
    s = before ++ part ++ rest := by
  induction s generalizing before with
  | nil =>
    rw [cutAt] at h
    split_ifs at h with hpart
    cases h
    simpa using hpart
  | cons c s ih =>
    rw [cutAt] at h
    split_ifs at h with hpart
    · cases h
      obtain ⟨t, ht⟩ := isPrefixOf_iff_prefix.mp hpart
      rw [← ht]
      simp
    · obtain ⟨⟨before', rest'⟩, hcut, hpair⟩ := Option.map_eq_some_iff.mp h
      cases hpair
      rw [ih hcut]
      rfl

theorem prefix_of_append {line r : Text} (hline : '\n' ∉ line) (hne : line ≠ [])
    (hr : r = [] ∨ r.getLast? = some '\n') (hZ : Z = [] ∨ ∃ z, Z = '\n' :: z)
    (hpre : line ++ ['\n'] <+: r ++ Z) : line ++ ['\n'] <+: r := by
  by_cases hlength : (line ++ ['\n']).length ≤ r.length
  · exact prefix_of_prefix_length_le hpre (prefix_append r Z) hlength
  · -- otherwise `r` is a part of the line, which has no newline
    have hshort : r <+: line := by
      refine prefix_of_prefix_length_le
        ((prefix_append r Z)) (((prefix_append line ['\n'])).trans hpre) ?_
      simp only [length_append, length_singleton] at hlength
      omega
    rcases hr with rfl | hr
    · rcases hZ with rfl | ⟨z, rfl⟩
      · simp at hpre
      · cases line with
        | nil => exact absurd rfl hne
        | cons c line =>
          simp only [nil_append, cons_append, cons_prefix_cons] at hpre
          exact absurd (hpre.1 ▸ mem_cons_self) hline
    · exact absurd (hshort.subset (mem_of_getLast? hr)) hline

end

theorem newlineTails_items {α : Type} {f : α → Text} {items : List α}
    (hf : ∀ a ∈ items, ∃ line, '\n' ∉ line ∧ f a = '-' :: (line ++ ['\n'])) :
    (items.flatMap f = [] ∨ ∃ t, items.flatMap f = '-' :: t) ∧
      ∀ r ∈ newlineTails (items.flatMap f), r = [] ∨ ∃ t, r = '-' :: t := by
  induction items with
  | nil => simp
  | cons a items ih =>
    obtain ⟨line, hline, ha⟩ := hf a mem_cons_self
    obtain ⟨hrest, htails⟩ := ih fun b hb => hf b (mem_cons_of_mem a hb)
    have hdash : '\n' ∉ '-' :: line := by simpa using hline
    have hflat : (a :: items).flatMap f = ('-' :: line) ++ '\n' :: items.flatMap f := by
      simp [ha]
    rw [hflat, newlineTails_line hdash]
    refine ⟨.inr ⟨_, rfl⟩, fun r hr => ?_⟩
    rw [newlineTails_newline, mem_cons] at hr
    rcases hr with rfl | hr
    · exact hrest
    · exact htails r hr

/-! ## Stripping -/

def authorizedLine : Text := "## 已授权材料".toList

def NoHeading (body : Text) : Prop :=
  ∀ r ∈ newlineTails ('\n' :: endLine body), ¬ authorizedLine ++ ['\n'] <+: r

instance (body : Text) : Decidable (NoHeading body) := by
  unfold NoHeading
  infer_instance

def UnavailableMaterial.OneLine (item : UnavailableMaterial) : Prop :=
  '\n' ∉ item.kind ∧ '\n' ∉ item.id ∧ '\n' ∉ item.reason

def titled (title body : Text) : Text := '#' :: ' ' :: (title ++ '\n' :: '\n' :: endLine body)

theorem authorizedHeading_eq : authorizedHeading = '\n' :: (authorizedLine ++ ['\n']) := by decide

def unavailableLineText : Text := "## 不可用材料".toList

theorem unavailableHeading_eq : unavailableHeading = '\n' :: (unavailableLineText ++ ['\n']) := by
  decide

theorem endLine_getLast? (body : Text) : (endLine body).getLast? = some '\n' := by
  rw [endLine]
  split_ifs with h
  · exact h
  · simp

theorem render_eq (title body : Text) (included : List Text)
    (unavailable : List UnavailableMaterial) :
    renderMarkdownExport title body included unavailable =
      titled title body ++ (includedSection included ++ unavailableSection unavailable) := by
  simp [renderMarkdownExport, titled]

theorem includedLine_dash {id : Text} (h : '\n' ∉ id) :
    ∃ line, '\n' ∉ line ∧ includedLine id = '-' :: (line ++ ['\n']) :=
  ⟨' ' :: id, by simpa using h, by simp [includedLine]⟩

theorem unavailableLine_dash {item : UnavailableMaterial} (h : item.OneLine) :
    ∃ line, '\n' ∉ line ∧ unavailableLine item = '-' :: (line ++ ['\n']) := by
  obtain ⟨hkind, hid, hreason⟩ := h
  refine ⟨' ' :: (item.kind ++ " `".toList ++ item.id ++ "`：".toList ++ item.reason), ?_,
    by simp [unavailableLine]⟩
  have h1 : '\n' ∉ " `".toList := by decide
  have h2 : '\n' ∉ "`：".toList := by decide
  simp only [mem_cons, mem_append, not_or]
  exact ⟨by decide, ⟨⟨⟨hkind, h1⟩, hid⟩, h2⟩, hreason⟩

section

variable {title body : Text} {included : List Text} {unavailable : List UnavailableMaterial}

/-- No heading of included materials starts in the titled body, whatever section follows. -/
theorem titled_noHeading (htitle : '\n' ∉ title) (hbody : NoHeading body) {Z : Text}
    (hZ : Z = [] ∨ ∃ z, Z = '\n' :: z) :
    ∀ r ∈ newlineTails (titled title body), ¬ authorizedLine ++ ['\n'] <+: r ++ Z := by
  have hfirst : '\n' ∉ '#' :: ' ' :: title := by simpa using htitle
  have htitled : titled title body = ('#' :: ' ' :: title) ++ '\n' :: ('\n' :: endLine body) := rfl
  rw [htitled, newlineTails_line hfirst, newlineTails_newline]
  intro r hr hpre
  rcases mem_cons.mp hr with rfl | hr
  · -- the text after the title starts with a newline
    have hhead : authorizedLine ++ ['\n'] = '#' :: (authorizedLine ++ ['\n']).tail := by decide
    rw [hhead, cons_append, cons_prefix_cons] at hpre
    exact absurd hpre.1 (by decide)
  · refine hbody r hr (prefix_of_append (by decide) (by decide) ?_ hZ hpre)
    have hsuffix := newlineTails_suffix hr
    obtain ⟨t, ht⟩ := hsuffix
    cases r with
    | nil => exact .inl rfl
    | cons c r =>
      right
      have hlast := congrArg getLast? ht
      rw [getLast?_append, getLast?_cons, getLast?_cons, endLine_getLast?, Option.some_or] at hlast
      rw [getLast?_cons, hlast]
      rfl

theorem unavailableSection_start : unavailableSection unavailable = [] ∨
    ∃ z, unavailableSection unavailable = '\n' :: z := by
  rw [unavailableSection]
  split_ifs
  · exact .inl rfl
  · exact .inr ⟨_, rfl⟩

theorem unavailableSection_noHeading (hunavailable : ∀ item ∈ unavailable, item.OneLine) :
    ∀ r ∈ newlineTails (unavailableSection unavailable), ¬ authorizedLine ++ ['\n'] <+: r := by
  rw [unavailableSection]
  split_ifs with hempty
  · simp
  · obtain ⟨hstart, htails⟩ := newlineTails_items (f := unavailableLine)
      fun item hitem => unavailableLine_dash (hunavailable item hitem)
    generalize unavailable.flatMap unavailableLine = items at hstart htails
    have hsplit : unavailableHeading ++ '\n' :: items =
        '\n' :: (unavailableLineText ++ '\n' :: '\n' :: items) := by
      rw [unavailableHeading_eq]
      simp
    have hline : '\n' ∉ unavailableLineText := by decide
    have hhead : authorizedLine ++ ['\n'] = '#' :: (authorizedLine ++ ['\n']).tail := by decide
    rw [hsplit, newlineTails_newline, newlineTails_line hline, newlineTails_newline,
      newlineTails_newline]
    intro r hr hpre
    simp only [mem_cons] at hr
    rcases hr with rfl | rfl | rfl | hr
    · have hfirst := (prefix_append authorizedLine ['\n']).trans hpre
      have hother : authorizedLine <+: unavailableLineText :=
        prefix_of_prefix_length_le hfirst (prefix_append _ _) (by decide)
      exact absurd hother (by decide)
    · rw [hhead, cons_prefix_cons] at hpre
      exact absurd hpre.1 (by decide)
    · rcases hstart with hnil | ⟨t, ht⟩
      · rw [hnil, hhead] at hpre
        simp at hpre
      · rw [ht, hhead, cons_prefix_cons] at hpre
        exact absurd hpre.1 (by decide)
    · rcases htails r hr with rfl | ⟨t, rfl⟩
      · rw [hhead] at hpre
        simp at hpre
      · rw [hhead, cons_prefix_cons] at hpre
        exact absurd hpre.1 (by decide)

theorem includedSection_start (hempty : included ≠ []) : includedSection included =
    '\n' :: ((authorizedLine ++ ['\n']) ++ '\n' :: included.flatMap includedLine) := by
  rw [includedSection, if_neg hempty, authorizedHeading_eq]
  simp

/-- The exported text without the section of included materials. When materials are included and
none is unavailable, the newlines at its end are cut down to one. -/
def kept (title body : Text) (included : List Text) (unavailable : List UnavailableMaterial) : Text :=
  if included ≠ [] ∧ unavailable = [] then trimNewlines (titled title body) ++ ['\n']
  else titled title body ++ unavailableSection unavailable

/-- An import takes the section of included materials away, and only that. -/
theorem strip_render (htitle : '\n' ∉ title) (hbody : NoHeading body)
    (hincluded : ∀ id ∈ included, '\n' ∉ id) (hunavailable : ∀ item ∈ unavailable, item.OneLine) :
    stripExportMarkdownChrome (renderMarkdownExport title body included unavailable) =
      kept title body included unavailable := by
  rw [render_eq, stripExportMarkdownChrome, authorizedHeading_eq]
  by_cases hempty : included = []
  · -- nothing to take away
    have hsection : includedSection included = [] := if_pos hempty
    rw [hsection, nil_append, kept, if_neg (fun h => h.1 hempty), cutAt_eq_none.mpr]
    intro r hr
    rw [newlineTails_append, mem_append, mem_map] at hr
    rcases hr with ⟨r', hr', rfl⟩ | hr
    · exact titled_noHeading htitle hbody unavailableSection_start r' hr'
    · exact unavailableSection_noHeading hunavailable r hr
  · obtain ⟨hstart, htails⟩ := newlineTails_items fun id hid => includedLine_dash (hincluded id hid)
    rw [includedSection_start hempty, cons_append, append_assoc (authorizedLine ++ ['\n']),
      cutAt_append (titled_noHeading htitle hbody (.inr ⟨_, rfl⟩))]
    generalize included.flatMap includedLine = items at hstart htails
    -- every line of the section starts with a dash
    have hdash : ∀ r ∈ newlineTails ('\n' :: items), r = [] ∨ ∃ t, r = '-' :: t := by
      intro r hr
      rw [newlineTails_newline, mem_cons] at hr
      rcases hr with rfl | hr
      · exact hstart
      · exact htails r hr
    have hsharp : ("\n## ".toList : Text) = '\n' :: ['#', '#', ' '] := by decide
    simp only [hsharp, cons_append]
    by_cases hnone : unavailable = []
    · have hsection : unavailableSection unavailable = [] := if_pos hnone
      rw [hsection, append_nil, kept, if_pos ⟨hempty, hnone⟩, cutAt_eq_none.mpr]
      intro r hr hpre
      rcases hdash r hr with rfl | ⟨t, rfl⟩
      · simp at hpre
      · rw [cons_prefix_cons] at hpre
        exact absurd hpre.1 (by decide)
    · have hsection : ∃ z, unavailableSection unavailable = '\n' :: (['#', '#', ' '] ++ z) := by
        rw [unavailableSection, if_neg hnone, unavailableHeading_eq]
        exact ⟨_, rfl⟩
      obtain ⟨z, hz⟩ := hsection
      rw [kept, if_neg (fun h => hnone h.2), hz, ← cons_append, cutAt_append]
      · simp
      · intro r hr hpre
        rcases hdash r hr with rfl | ⟨t, rfl⟩
        · simp at hpre
        · rw [cons_append, cons_prefix_cons] at hpre
          exact absurd hpre.1 (by decide)

end

/-- A text with the heading of included materials comes back shorter. -/
theorem strip_length_lt {text : Text} (h : cutAt authorizedHeading text ≠ none) :
    (stripExportMarkdownChrome text).length < text.length := by
  obtain ⟨⟨before, rest⟩, hcut⟩ := Option.ne_none_iff_exists'.mp h
  have htext := congrArg length (cutAt_eq_some hcut)
  have hheading : authorizedHeading.length = 10 := by decide
  have hnext : ("\n## ".toList : Text).length = 4 := by decide
  rw [length_append, length_append, hheading] at htext
  rw [stripExportMarkdownChrome, hcut]
  dsimp only
  cases hcut' : cutAt "\n## ".toList rest with
  | none =>
    have htrim : (trimNewlines before).length ≤ before.length := by
      simpa [trimNewlines] using (dropWhile_sublist (· = '\n') (l := before.reverse)).length_le
    simp only [length_append, length_singleton]
    omega
  | some cut =>
    have hrest := congrArg length (cutAt_eq_some hcut')
    simp only [length_append, hnext] at hrest ⊢
    omega

/-- Without included materials, a text that comes back whole has no such heading. -/
theorem noHeading_of_strip {title body : Text} {unavailable : List UnavailableMaterial}
    (h : stripExportMarkdownChrome (renderMarkdownExport title body [] unavailable) =
      kept title body [] unavailable) : NoHeading body := by
  have hrender : renderMarkdownExport title body [] unavailable = kept title body [] unavailable := by
    rw [render_eq, kept, if_neg (by simp)]
    rfl
  have hcut : cutAt authorizedHeading (kept title body [] unavailable) = none := by
    by_contra hfound
    have hlt := strip_length_lt hfound
    rw [← hrender, h, hrender] at hlt
    exact lt_irrefl _ hlt
  rw [kept, if_neg (by simp), authorizedHeading_eq, cutAt_eq_none] at hcut
  intro r hr hpre
  refine hcut (r ++ unavailableSection unavailable) ?_ (hpre.trans (prefix_append _ _))
  rw [newlineTails_append]
  refine mem_append_left _ (mem_map_of_mem ?_)
  have htitled : titled title body = ('#' :: ' ' :: (title ++ ['\n'])) ++ ('\n' :: endLine body) := by
    simp [titled]
  rw [htitled, newlineTails_append]
  exact mem_append_right _ hr

/-! ## References -/

theorem matchComment_eq {line kind id : Text} (h : matchComment line = some (kind, id)) :
    line = commentLine kind id := by
  obtain ⟨k, -, hk⟩ := exists_of_findSome?_eq_some h
  dsimp only at hk
  split_ifs at hk with hmatch
  cases hk
  exact hmatch.2

theorem matchLink_eq {line label kind id : Text} (h : matchLink line = some (label, kind, id)) :
    line = linkLine label kind id := by
  obtain ⟨⟨size, k⟩, -, hk⟩ := exists_of_findSome?_eq_some h
  dsimp only at hk
  split_ifs at hk with hmatch
  cases hk
  exact hmatch.2.2

def PlainLine (line : Text) : Prop :=
  matchComment (trimText line) = none ∧ matchLink (trimText line) = none

/-- Every reference of the text is a comment with its link on the next line, as they are written. -/
inductive WellReferenced : List Text → Prop
  | nil : WellReferenced []
  | plain {line : Text} {lines : List Text} (h : PlainLine line) (hrest : WellReferenced lines) :
      WellReferenced (line :: lines)
  | pair {comment link kind id label : Text} {lines : List Text}
      (hcomment : matchComment comment = some (kind, id)) (hcommentTrim : trimText comment = comment)
      (hlink : matchLink link = some (label, kind, id)) (hlinkTrim : trimText link = link)
      (hrest : WellReferenced lines) : WellReferenced (comment :: link :: lines)

theorem rebindLines_self {lines : List Text} (h : WellReferenced lines) :
    rebindLines (fun _ id => some id) lines = lines := by
  induction h with
  | nil => rfl
  | plain h _ ih => simp only [rebindLines, h.1, h.2, ih]
  | pair hcomment hcommentTrim hlink hlinkTrim _ ih =>
    rw [rebindLines, hcommentTrim, hcomment]
    dsimp only
    rw [hlinkTrim, hlink]
    dsimp only
    rw [if_pos ⟨rfl, rfl⟩, ih, ← matchComment_eq hcomment, ← matchLink_eq hlink]

theorem trimText_sublist (line : Text) : trimText line <+ line := by
  rw [trimText, ← reverse_sublist, reverse_reverse]
  exact (dropWhile_sublist _).trans (reverse_sublist.mpr (dropWhile_sublist _))

theorem label_sublist (label kind id : Text) : label <+ linkLine label kind id := by
  rw [linkLine, append_assoc, append_assoc]
  exact (sublist_append_left _ _).cons _

theorem rebindLines_length_le (remap : Text → Text → Option Text) (lines : List Text) :
    (rebindLines remap lines).length ≤ lines.length := by
  fun_induction rebindLines remap lines <;> simp only [length_cons, length_nil] at * <;> omega

/-- Rebinding every reference to itself changes every text with another reference line in it: a
comment without its link is dropped, a link without its comment becomes its label. -/
theorem WellReferenced.of_rebindLines {lines : List Text}
    (h : rebindLines (fun _ id => some id) lines = lines) : WellReferenced lines := by
  fun_induction rebindLines (fun _ id => some id) lines with
  | case1 => exact .nil
  | case2 line kind id hcomment next rest label kind' id' hlink hsame target htarget ih =>
    cases htarget
    obtain ⟨rfl, rfl⟩ := hsame
    obtain ⟨hline, hrest⟩ := cons.inj h
    obtain ⟨hnext, hrest⟩ := cons.inj hrest
    have hcommentTrim := (matchComment_eq hcomment).trans hline
    have hlinkTrim := (matchLink_eq hlink).trans hnext
    rw [hcommentTrim] at hcomment
    rw [hlinkTrim] at hlink
    exact .pair hcomment hcommentTrim hlink hlinkTrim (ih hrest)
  | case3 _ _ _ _ _ _ _ _ _ _ _ htarget => cases htarget
  | case4 _ _ _ _ next rest =>
    have hle := rebindLines_length_le (fun _ id => some id) (next :: rest)
    rw [h] at hle
    simp at hle
  | case5 _ _ _ _ next rest =>
    have hle := rebindLines_length_le (fun _ id => some id) (next :: rest)
    rw [h] at hle
    simp at hle
  | case6 => cases h
  | case7 line rest _ label kind id hlink =>
    -- the label is shorter than the link
    have hle := (trimText_sublist line).length_le
    rw [matchLink_eq hlink, ← (cons.inj h).1] at hle
    simp only [linkLine, length_cons, length_append] at hle
    omega
  | case8 line rest hcomment hlink ih => exact .plain ⟨hcomment, hlink⟩ (ih (cons.inj h).2)

theorem rebindLines_noNewline {lines : List Text} (h : ∀ line ∈ lines, '\n' ∉ line) :
    ∀ line ∈ rebindLines (fun _ id => some id) lines, '\n' ∉ line := by
  have htrim : ∀ line : Text, '\n' ∉ line → '\n' ∉ trimText line :=
    fun line hline hmem => hline ((trimText_sublist line).subset hmem)
  fun_induction rebindLines (fun _ id => some id) lines with
  | case1 => exact h
  | case2 line kind id hcomment next rest label kind' id' hlink hsame target htarget ih =>
    cases htarget
    obtain ⟨rfl, rfl⟩ := hsame
    simp only [forall_mem_cons] at h ⊢
    rw [← matchComment_eq hcomment, ← matchLink_eq hlink]
    exact ⟨htrim _ h.1, htrim _ h.2.1, ih h.2.2⟩
  | case3 _ _ _ _ _ _ _ _ _ _ _ htarget => cases htarget
  | case4 _ _ _ _ _ _ _ _ _ _ _ ih => exact ih (forall_mem_cons.mp h).2
  | case5 _ _ _ _ _ _ _ ih => exact ih (forall_mem_cons.mp h).2
  | case6 => simp
  | case7 line rest _ label kind id hlink ih =>
    simp only [forall_mem_cons] at h ⊢
    refine ⟨fun hmem => htrim _ h.1 ?_, ih h.2⟩
    rw [matchLink_eq hlink]
    exact (label_sublist label kind id).subset hmem
  | case8 line rest _ _ ih =>
    simp only [forall_mem_cons] at h ⊢
    exact ⟨h.1, ih h.2⟩

theorem splitOn_noNewline (text : Text) : ∀ line ∈ text.splitOn '\n', '\n' ∉ line := by
  induction text with
  | nil => simp
  | cons c text ih =>
    rw [splitOn_cons_eq_if_modifyHead]
    split_ifs with hc
    · simpa using ih
    · cases hsplit : text.splitOn '\n' with
      | nil => simp
      | cons first rest =>
        rw [hsplit, forall_mem_cons] at ih
        have hne : '\n' ≠ c := fun h => hc (beq_iff_eq.mpr h.symm)
        simpa [hne, ih.1] using ih.2

/-- Rebinding every reference to itself leaves exactly the texts whose references are complete. -/
theorem rebind_self_iff (body : Text) :
    rebindImportedMarkdownReferences (fun _ id => some id) body = body ↔
      WellReferenced (body.splitOn '\n') := by
  rw [rebindImportedMarkdownReferences]
  constructor
  · intro h
    refine .of_rebindLines ?_
    cases hlines : rebindLines (fun _ id => some id) (body.splitOn '\n') with
    | nil =>
      -- then the body is empty, and its one line stays
      rw [hlines] at h
      subst h
      exact absurd hlines (by decide)
    | cons line rest =>
      have hnone := rebindLines_noNewline (splitOn_noNewline body)
      rw [← hlines, ← splitOn_intercalate '\n' hnone (by simp [hlines]), h]
  · intro h
    rw [rebindLines_self h, intercalate_splitOn]
theorem wellReferenced_cons {line : Text} {lines : List Text} (h : PlainLine line) :
    WellReferenced (line :: lines) ↔ WellReferenced lines := by
  refine ⟨fun hlines => ?_, .plain h⟩
  cases hlines with
  | plain _ hrest => exact hrest
  | pair hcomment hcommentTrim =>
    have hplain := h.1
    rw [hcommentTrim, hcomment] at hplain
    cases hplain

theorem WellReferenced.append_plain {xs ys : List Text} (h : WellReferenced xs)
    (hys : ∀ line ∈ ys, PlainLine line) : WellReferenced (xs ++ ys) := by
  induction h with
  | nil =>
    induction ys with
    | nil => exact .nil
    | cons line ys ih =>
      exact .plain (hys line mem_cons_self) (ih fun l hl => hys l (mem_cons_of_mem _ hl))
  | plain h _ ih => exact .plain h ih
  | pair hcomment hcommentTrim hlink hlinkTrim _ ih =>
    exact .pair hcomment hcommentTrim hlink hlinkTrim ih

theorem WellReferenced.of_append {lines xs ys : List Text} (h : WellReferenced lines)
    (heq : lines = xs ++ ys) (hys : ∀ line ∈ ys, PlainLine line) : WellReferenced xs := by
  induction h generalizing xs with
  | nil =>
    rw [(append_eq_nil_iff.mp heq.symm).1]
    exact .nil
  | plain h _ ih =>
    cases xs with
    | nil => exact .nil
    | cons x xs =>
      obtain ⟨rfl, hrest⟩ := cons.inj heq
      exact .plain h (ih hrest)
  | @pair comment link kind id label lines hcomment hcommentTrim hlink hlinkTrim _ ih =>
    rcases xs with _ | ⟨x, _ | ⟨y, xs⟩⟩
    · exact .nil
    · -- the link would be a plain line
      simp only [cons_append, nil_append, cons.injEq] at heq
      have hmem : link ∈ ys := by
        rw [← heq.2]
        exact mem_cons_self
      have hplain := (hys link hmem).2
      rw [hlinkTrim, hlink] at hplain
      cases hplain
    · simp only [cons_append, cons.injEq] at heq
      obtain ⟨rfl, rfl, hrest⟩ := heq
      exact .pair hcomment hcommentTrim hlink hlinkTrim (ih hrest)

theorem wellReferenced_append {xs ys : List Text} (hys : ∀ line ∈ ys, PlainLine line) :
    WellReferenced (xs ++ ys) ↔ WellReferenced xs :=
  ⟨fun h => h.of_append rfl hys, fun h => h.append_plain hys⟩

theorem trimText_cons {c : Char} (hc : isSpace c = false) (line : Text) :
    ∃ rest, trimText (c :: line) = c :: rest := by
  have hdrop : (c :: line).dropWhile isSpace = c :: line := by simp [hc]
  rw [trimText, hdrop, reverse_cons, dropWhile_append]
  split_ifs with hempty
  · exact ⟨[], by simp [hc]⟩
  · exact ⟨_, by rw [reverse_append]; rfl⟩

theorem plainLine_cons {c : Char} (hc : isSpace c = false) (hcomment : c ≠ '<') (hlink : c ≠ '[')
    (line : Text) : PlainLine (c :: line) := by
  obtain ⟨rest, hrest⟩ := trimText_cons hc line
  rw [PlainLine, hrest]
  constructor
  · refine Option.eq_none_iff_forall_ne_some.mpr fun ⟨kind, id⟩ h => ?_
    have hline := matchComment_eq h
    exact hcomment (cons.inj (hline.trans rfl)).1
  · refine Option.eq_none_iff_forall_ne_some.mpr fun ⟨label, kind, id⟩ h => ?_
    exact hlink (cons.inj (matchLink_eq h)).1

theorem plainLine_nil : PlainLine [] := by
  constructor <;> decide

theorem items_plain {α : Type} {f : α → Text} {items : List α}
    (hf : ∀ a ∈ items, ∃ line, '\n' ∉ line ∧ f a = '-' :: (line ++ ['\n'])) :
    ∀ line ∈ (items.flatMap f).splitOn '\n', PlainLine line := by
  induction items with
  | nil => simp [plainLine_nil]
  | cons a items ih =>
    obtain ⟨line, hline, ha⟩ := hf a mem_cons_self
    have hdash : '\n' ∉ '-' :: line := by simpa using hline
    have hflat : (a :: items).flatMap f = ('-' :: line) ++ '\n' :: items.flatMap f := by
      simp [ha]
    rw [hflat, splitOn_append_cons_self_of_not_mem hdash]
    intro l hl
    rcases mem_cons.mp hl with rfl | hl
    · exact plainLine_cons (by decide) (by decide) (by decide) line
    · exact ih (fun b hb => hf b (mem_cons_of_mem a hb)) l hl

section

variable {title body : Text} {included : List Text} {unavailable : List UnavailableMaterial}

theorem unavailableSection_plain (hunavailable : ∀ item ∈ unavailable, item.OneLine) :
    ∀ line ∈ (unavailableSection unavailable).splitOn '\n', PlainLine line := by
  rw [unavailableSection]
  split_ifs
  · simp [plainLine_nil]
  · have hline : '\n' ∉ unavailableLineText := by decide
    have hitems := items_plain fun item hitem => unavailableLine_dash (hunavailable item hitem)
    have hsplit : unavailableHeading ++ '\n' :: unavailable.flatMap unavailableLine =
        [] ++ '\n' :: (unavailableLineText ++ '\n' ::
          ([] ++ '\n' :: unavailable.flatMap unavailableLine)) := by
      rw [unavailableHeading_eq]
      simp
    rw [hsplit, splitOn_append_cons_self_of_not_mem not_mem_nil,
      splitOn_append_cons_self_of_not_mem hline,
      splitOn_append_cons_self_of_not_mem not_mem_nil]
    intro l hl
    simp only [mem_cons] at hl
    rcases hl with rfl | rfl | rfl | hl
    · exact plainLine_nil
    · exact plainLine_cons (by decide) (by decide) (by decide) _
    · exact plainLine_nil
    · exact hitems l hl

theorem endLine_split (body : Text) :
    ∃ b, endLine body = b ++ ['\n'] ∧ (body = b ∨ body = b ++ ['\n']) := by
  rw [endLine]
  split_ifs with h
  · obtain ⟨b, hb⟩ := getLast?_eq_some_iff.mp h
    exact ⟨b, hb, .inr hb⟩
  · exact ⟨body, rfl, .inl rfl⟩

theorem titled_lines (htitle : '\n' ∉ title) (Z : Text) :
    ∃ b, (body = b ∨ body = b ++ ['\n']) ∧ (titled title body ++ Z).splitOn '\n' =
      ('#' :: ' ' :: title) :: [] :: (b.splitOn '\n' ++ Z.splitOn '\n') := by
  have hfirst : '\n' ∉ '#' :: ' ' :: title := by simpa using htitle
  obtain ⟨b, hend, hbody⟩ := endLine_split body
  have hsplit : titled title body ++ Z =
      ('#' :: ' ' :: title) ++ '\n' :: ([] ++ '\n' :: (b ++ '\n' :: Z)) := by
    simp [titled, hend]
  refine ⟨b, hbody, ?_⟩
  rw [hsplit, splitOn_append_cons_self_of_not_mem hfirst,
    splitOn_append_cons_self_of_not_mem not_mem_nil, splitOn_append_cons_self]

theorem titled_wellReferenced (htitle : '\n' ∉ title) {Z : Text}
    (hZ : ∀ line ∈ Z.splitOn '\n', PlainLine line) :
    WellReferenced ((titled title body ++ Z).splitOn '\n') ↔ WellReferenced (body.splitOn '\n') := by
  obtain ⟨b, hbody, hlines⟩ := @titled_lines title body htitle Z
  rw [hlines, wellReferenced_cons (plainLine_cons (by decide) (by decide) (by decide) _),
    wellReferenced_cons plainLine_nil, wellReferenced_append hZ]
  rcases hbody with rfl | rfl
  · rfl
  · rw [splitOn_append_cons_self, wellReferenced_append (by simp [plainLine_nil])]

theorem trimNewlines_split (s : Text) : ∃ k, s = trimNewlines s ++ replicate k '\n' := by
  have hnewlines : s.reverse.takeWhile (· = '\n') =
      replicate (s.reverse.takeWhile (· = '\n')).length '\n' :=
    eq_replicate_of_mem fun c hc => by simpa using mem_takeWhile_imp hc
  refine ⟨(s.reverse.takeWhile (· = '\n')).length, ?_⟩
  rw [← reverse_replicate, ← hnewlines, trimNewlines, ← reverse_append,
    takeWhile_append_dropWhile, reverse_reverse]

theorem splitOn_newlines (s : Text) (k : Nat) :
    (s ++ replicate k '\n').splitOn '\n' = s.splitOn '\n' ++ replicate k [] := by
  have hempty : ∀ k, (replicate k '\n').splitOn '\n' = replicate (k + 1) [] := by
    intro k
    induction k with
    | zero => rfl
    | succ k ih =>
      rw [replicate_succ, ← nil_append ('\n' :: _), splitOn_append_cons_self, ih]
      rfl
  cases k with
  | zero => simp
  | succ k => rw [replicate_succ, splitOn_append_cons_self, hempty]

theorem kept_firstLine (htitle : '\n' ∉ title) :
    ∃ lines, (kept title body included unavailable).splitOn '\n' =
      ('#' :: ' ' :: title) :: lines := by
  rw [kept]
  split_ifs
  · obtain ⟨b, -, hlines⟩ := @titled_lines title body htitle []
    obtain ⟨k, hk⟩ := trimNewlines_split (titled title body)
    rw [append_nil, hk, splitOn_newlines] at hlines
    generalize trimNewlines (titled title body) = t at hlines
    rw [splitOn_append_cons_self]
    cases hsplit : t.splitOn '\n' with
    | nil => exact absurd hsplit (splitOn_ne_nil _ _)
    | cons first rest =>
      rw [hsplit, cons_append] at hlines
      obtain ⟨rfl, -⟩ := cons.inj hlines
      exact ⟨_, rfl⟩
  · obtain ⟨b, -, hlines⟩ := @titled_lines title body htitle (unavailableSection unavailable)
    exact ⟨_, hlines⟩

theorem kept_wellReferenced (htitle : '\n' ∉ title)
    (hunavailable : ∀ item ∈ unavailable, item.OneLine) :
    WellReferenced ((kept title body included unavailable).splitOn '\n') ↔
      WellReferenced (body.splitOn '\n') := by
  rw [kept]
  split_ifs
  · have htitled := @titled_wellReferenced title body htitle [] (by simp [plainLine_nil])
    obtain ⟨k, hk⟩ := trimNewlines_split (titled title body)
    rw [append_nil, hk, splitOn_newlines,
      wellReferenced_append fun l hl => (eq_of_mem_replicate hl) ▸ plainLine_nil] at htitled
    rw [splitOn_append_cons_self, wellReferenced_append (by simp [plainLine_nil])]
    exact htitled
  · exact titled_wellReferenced htitle (unavailableSection_plain hunavailable)

end

/-- For a title of one line and materials of one line each: when no line of the body is the export's
heading of included materials, an import finds the title again, without the white space around it,
and its body is the exported text without the section of included materials; when there is no such
section, only then. Rebinding every reference to itself leaves that text as it is exactly when every
reference line of the body belongs to a complete reference. -/
theorem import_keeps_exported_text {title body : Text} {included : List Text}
    {unavailable : List UnavailableMaterial} (htitle : '\n' ∉ title)
    (hincluded : ∀ id ∈ included, '\n' ∉ id) (hunavailable : ∀ item ∈ unavailable, item.OneLine) :
    (NoHeading body →
      parseImportedMarkdown (renderMarkdownExport title body included unavailable) =
        (trimText title, kept title body included unavailable)) ∧
    (included = [] →
      parseImportedMarkdown (renderMarkdownExport title body included unavailable) =
        (trimText title, kept title body included unavailable) → NoHeading body) ∧
    (rebindImportedMarkdownReferences (fun _ id => some id) (kept title body included unavailable) =
      kept title body included unavailable ↔ WellReferenced (body.splitOn '\n')) := by
  refine ⟨fun hbody => ?_, ?_, ?_⟩
  · obtain ⟨lines, hlines⟩ := @kept_firstLine title body included unavailable htitle
    rw [parseImportedMarkdown, strip_render htitle hbody hincluded hunavailable]
    rw [hlines, headingTitle, find?_cons_of_pos (by rfl)]
    rfl
  · rintro rfl hparse
    exact noHeading_of_strip (congrArg Prod.snd hparse)
  · rw [rebind_self_iff, kept_wellReferenced htitle hunavailable]

/-- A record with a reference, an included and an unavailable material. -/
theorem import_keeps_exported_text_reference :
    parseImportedMarkdown (renderMarkdownExport " t".toList
        "<!-- houfeng-ref:v1 evidence e -->\n[l](houfeng-evidence:e)\n".toList ["e".toList]
        [⟨"attachment".toList, "a".toList, "denied".toList⟩]) =
      ("t".toList, ("#  t\n\n<!-- houfeng-ref:v1 evidence e -->\n[l](houfeng-evidence:e)\n" ++
        "\n## 不可用材料\n\n- attachment `a`：denied\n").toList) ∧
    rebindImportedMarkdownReferences (fun _ id => some id)
        ("#  t\n\n<!-- houfeng-ref:v1 evidence e -->\n[l](houfeng-evidence:e)\n" ++
          "\n## 不可用材料\n\n- attachment `a`：denied\n").toList =
      ("#  t\n\n<!-- houfeng-ref:v1 evidence e -->\n[l](houfeng-evidence:e)\n" ++
        "\n## 不可用材料\n\n- attachment `a`：denied\n").toList := by
  have hparts := @import_keeps_exported_text " t".toList
    "<!-- houfeng-ref:v1 evidence e -->\n[l](houfeng-evidence:e)\n".toList ["e".toList]
    [⟨"attachment".toList, "a".toList, "denied".toList⟩] (by decide) (by decide) (by
      intro item hitem
      rw [mem_singleton.mp hitem]
      exact ⟨by decide, by decide, by decide⟩)
  refine ⟨(hparts.1 (by decide)).trans (by decide), hparts.2.2.mpr ?_⟩
  have hlines : "<!-- houfeng-ref:v1 evidence e -->\n[l](houfeng-evidence:e)\n".toList.splitOn '\n' =
      ["<!-- houfeng-ref:v1 evidence e -->".toList, "[l](houfeng-evidence:e)".toList, []] := by
    decide
  rw [hlines]
  exact @WellReferenced.pair _ _ "evidence".toList "e".toList "l".toList _ (by decide)
    (by decide) (by decide) (by decide) (.plain plainLine_nil .nil)

/-- The heading with the title comes back in the body; of a title of two lines only the first comes
back; newlines at the end and what follows a line that is the heading of included materials are
lost; a material of two lines leaves its second line behind, or cuts the text; in a code block a
comment without its link is dropped and a link without its comment becomes its label. -/
theorem import_returns_the_title_heading :
    parseImportedMarkdown (renderMarkdownExport "t".toList "x\n".toList [] []) =
      ("t".toList, "# t\n\nx\n".toList) ∧
    rebindImportedMarkdownReferences (fun _ id => some id) "# t\n\nx\n".toList ≠ "x\n".toList ∧
    (parseImportedMarkdown (renderMarkdownExport "t\nu".toList "x\n".toList [] [])).1 = "t".toList ∧
    (parseImportedMarkdown (renderMarkdownExport "t".toList "x\n\n".toList ["e".toList] [])).2 =
      "# t\n\nx\n".toList ∧
    (parseImportedMarkdown (renderMarkdownExport "t".toList
        "x\n## 已授权材料\ny\n".toList [] [])).2 = "# t\n\nx\n".toList ∧
    (parseImportedMarkdown (renderMarkdownExport "t".toList "x\n".toList
        ["e\n## f".toList] [])).2 = "# t\n\nx\n\n## f\n".toList ∧
    (parseImportedMarkdown (renderMarkdownExport "t".toList "x\n".toList []
        [⟨"k".toList, "i".toList, "a\n## 已授权材料\nb".toList⟩])).2 =
      "# t\n\nx\n\n## 不可用材料\n\n- k `i`：a\n".toList ∧
    rebindImportedMarkdownReferences (fun _ id => some id)
        "# t\n\n```\n<!-- houfeng-ref:v1 evidence e -->\n```\n[l](houfeng-evidence:e)\n".toList =
      "# t\n\n```\n```\nl\n".toList := by
  decide

end Houfeng.Portability
