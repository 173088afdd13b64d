import FluentSql.Proofs.Condition.Tree

/-!
# Proofs/Splice/Text — texts with one gap

    SELECT * FROM `t` WHERE `a` ⟨ w i ⟩ ? AND `b` IS NULL

Texts that depend on one word, and on nothing else, are a family over the choices of the word.  Such a
family has one gap (`Spliced`) when the word stands between two texts that are always the same.  Gaps
survive whatever is written around them; they survive the cutting off of a connective or of commas
because the text in front of the gap begins with a mark and has a blank behind it (`Opens`), so that
everything that is cut off is found before the gap.
-/

namespace FluentSql

variable {ι : Type} {w f : ι → String}

/-! ## Families -/

/-- **A family that does not depend on the choice.** -/
def Fixed {α : Type} (f : ι → α) : Prop := ∃ a, ∀ i, f i = a

theorem Fixed.intro {α : Type} {f : ι → α} (a : α) (h : ∀ i, f i = a) : Fixed f := ⟨a, h⟩

theorem Fixed.exists {α : Type} {f : ι → α} (h : Fixed f) : ∃ a, ∀ i, f i = a := h

theorem Fixed.of {α : Type} (a : α) : Fixed fun _ : ι => a := ⟨a, fun _ => rfl⟩

theorem Fixed.map {α β : Type} {f : ι → α} (h : Fixed f) (g : α → β) : Fixed fun i => g (f i) :=
  Exists.elim h fun a ha => ⟨g a, fun i => congrArg g (ha i)⟩

/-- **A text with one gap**: `w i` between two texts that are always the same. -/
def Spliced (w f : ι → String) : Prop := ∃ u v : String, ∀ i, f i = u ++ w i ++ v

/-- A character that no cutting off passes: neither a blank nor a comma. -/
def IsMark (a : Char) : Prop := Text.isBlank a = false ∧ a ≠ ','

instance (a : Char) : Decidable (IsMark a) := inferInstanceAs (Decidable (_ ∧ _))

/-- **A text that begins with a mark and has a blank later on.** -/
def Opens (u : String) : Prop :=
  ∃ a r b, u.toList = a :: r ∧ IsMark a ∧ b ∈ r ∧ Text.isBlank b = true

/-- **A text with one gap behind a text that opens it.** -/
def Anchored (w f : ι → String) : Prop := ∃ u v : String, Opens u ∧ ∀ i, f i = u ++ w i ++ v

theorem Opens.append {u : String} (h : Opens u) (v : String) : Opens (u ++ v) := by
  obtain ⟨a, r, b, hu, ha, hb, hblank⟩ := h
  exact ⟨a, r ++ v.toList, b, by rw [String.toList_append, hu, List.cons_append], ha,
    List.mem_append_left _ hb, hblank⟩

/-- A text that opens is opened by any text in front of it that begins with a mark. -/
theorem Opens.behind {u s : String} (h : Opens u) {m : Char} {t : List Char} (hs : s.toList = m :: t)
    (hm : IsMark m) : Opens (s ++ u) := by
  obtain ⟨a, r, b, hu, -, hb, hblank⟩ := h
  refine ⟨m, t ++ a :: r, b, by rw [String.toList_append, hu, hs]; rfl, hm, ?_, hblank⟩
  exact List.mem_append_right t (List.mem_cons_of_mem a hb)

theorem Anchored.spliced (h : Anchored w f) : Spliced w f :=
  h.imp fun _ hu => hu.imp fun _ hv => hv.2

theorem Spliced.before (h : Spliced w f) (b : String) : Spliced w fun i => f i ++ b := by
  obtain ⟨u, v, hf⟩ := h
  exact ⟨u, v ++ b, fun i => by simp only [hf, String.append_assoc]⟩

theorem Spliced.behind (h : Spliced w f) (a : String) : Spliced w fun i => a ++ f i := by
  obtain ⟨u, v, hf⟩ := h
  exact ⟨a ++ u, v, fun i => by simp only [hf, String.append_assoc]⟩

theorem Fixed.append {g : ι → String} (hf : Fixed f) (hg : Fixed g) : Fixed fun i => f i ++ g i := by
  obtain ⟨a, ha⟩ := hf
  simpa only [ha] using hg.map (a ++ ·)

theorem Spliced.append_fixed {g : ι → String} (h : Spliced w f) (hg : Fixed g) :
    Spliced w fun i => f i ++ g i := by
  obtain ⟨b, hb⟩ := hg
  simpa only [hb] using h.before b

theorem Fixed.append_spliced {g : ι → String} (hg : Fixed g) (h : Spliced w f) :
    Spliced w fun i => g i ++ f i := by
  obtain ⟨a, ha⟩ := hg
  simpa only [ha] using h.behind a

/-- Behind a text that opens it a gap is anchored. -/
theorem Spliced.anchored (h : Spliced w f) {a : String} (ha : Opens a) :
    Anchored w fun i => a ++ f i := by
  obtain ⟨u, v, hf⟩ := h
  exact ⟨a ++ u, v, ha.append u,
    fun i => by simp only [hf, String.append_assoc]⟩

theorem Anchored.before (h : Anchored w f) (b : String) : Anchored w fun i => f i ++ b := by
  obtain ⟨u, v, hu, hf⟩ := h
  exact ⟨u, v ++ b, hu, fun i => by simp only [hf, String.append_assoc]⟩

theorem Anchored.behind (h : Anchored w f) {s : String} {m : Char} {t : List Char}
    (hs : s.toList = m :: t) (hm : IsMark m) : Anchored w fun i => s ++ f i := by
  obtain ⟨u, v, hu, hf⟩ := h
  exact ⟨s ++ u, v, hu.behind hs hm, fun i => by simp only [hf, String.append_assoc]⟩

theorem Anchored.parenthesis (h : Anchored w f) : Anchored w fun i => "(" ++ f i :=
  h.behind rfl (by decide)

/-! ## Joining -/

/-- Joining writes the separator behind every text before the chosen one, and in front of every text
after it. -/
theorem joinWith_append_cons (sep s : String) (l r : List String) :
    Text.joinWith sep (l ++ s :: r) =
      String.join (l.map (· ++ sep)) ++ (s ++ String.join (r.map (sep ++ ·))) := by
  induction l with
  | nil => rw [List.nil_append, joinWith_cons, List.map_nil, String.join_nil, String.empty_append]
  | cons a l ih =>
    have hne : ∃ b t, l ++ s :: r = b :: t := by cases l <;> exact ⟨_, _, rfl⟩
    obtain ⟨b, t, hbt⟩ := hne
    rw [hbt] at ih
    rw [List.cons_append, hbt, Text.joinWith_cons_cons, ih, List.map_cons, String.join_cons]
    simp only [String.append_assoc]

/-- **A gap in one of the joined texts is a gap in the joined text.** -/
theorem Spliced.joinWith (h : Spliced w f) (sep : String) (l r : List String) :
    Spliced w fun i => Text.joinWith sep (l ++ f i :: r) := by
  have hjoin := (h.before (String.join (r.map (sep ++ ·)))).behind (String.join (l.map (· ++ sep)))
  simpa only [joinWith_append_cons] using hjoin

/-! ## Cutting off -/

/-- **What is written in the gap begins with a character other than a blank.** -/
def Visible (w : ι → String) : Prop := ∀ i, ∃ c r, (w i).toList = c :: r ∧ Text.isBlank c = false

/-- A blank has no lower case. -/
theorem Text.toLower_of_isBlank {c : Char} (h : isBlank c = true) : c.toLower = c := by
  unfold Char.toLower
  split
  · next hc =>
    obtain ⟨hfirst, hlast⟩ := hc
    simp [isBlank, UInt32.le_iff_toNat_le, ← UInt32.toNat_inj] at h hfirst hlast
    omega
  · rfl

/-- Commas end at the latest where a character begins that is neither comma nor space. -/
theorem Query.dropCommas_append {s : List Char} {c : Char} (hmem : c ∈ s) (hcomma : c ≠ ',')
    (hspace : c ≠ ' ') (r : List Char) : dropCommas (s ++ r) = dropCommas s ++ r := by
  induction s using dropCommas.induct with
  | case1 s ih =>
    have hmem : c ∈ s := by simpa [hcomma, hspace] using hmem
    exact ih hmem
  | case2 s hs =>
    have happend : ∀ t, s ++ r ≠ ',' :: ' ' :: t := by
      intro t heq
      rcases s with - | ⟨a, - | ⟨b, s⟩⟩
      · exact absurd hmem List.not_mem_nil
      · obtain rfl := List.mem_singleton.mp hmem
        exact hcomma (List.cons.inj heq).1
      · obtain ⟨rfl, htail⟩ := List.cons.inj heq
        obtain ⟨rfl, -⟩ := List.cons.inj htail
        exact hs s rfl
    rw [dropCommas.eq_2 _ happend, dropCommas.eq_2 s hs]

namespace Connective

/-- **A word without blanks is looked for in front of the first blank.** -/
theorem afterWord?_append {word s : List Char} (hword : ∀ k ∈ word, Text.isBlank k = false)
    (hs : ∃ b ∈ s, Text.isBlank b = true) (r : List Char) :
    afterWord? word (s ++ r) = (afterWord? word s).map (· ++ r) ∧
      ∀ t ∈ afterWord? word s, ∃ b ∈ t, Text.isBlank b = true := by
  induction word generalizing s with
  | nil => exact ⟨rfl, by rintro _ ⟨⟩; exact hs⟩
  | cons k word ih =>
    obtain ⟨hk, hword⟩ := List.forall_mem_cons.mp hword
    obtain ⟨b, hb, hblank⟩ := hs
    cases s with
    | nil => exact absurd hb List.not_mem_nil
    | cons c s =>
      rw [List.cons_append, afterWord?, afterWord?]
      split
      · next hc =>
        have hne : b ≠ c := by
          rintro rfl
          rw [← hc, Text.toLower_of_isBlank hblank, hblank] at hk
          exact Bool.noConfusion hk
        exact ih hword ⟨b, (List.mem_cons.mp hb).resolve_left hne, hblank⟩
      · exact ⟨rfl, fun _ ht => absurd ht (Option.not_mem_none _)⟩

theorem after?_append {s : List Char} (hs : ∃ b ∈ s, Text.isBlank b = true) (k : Connective)
    (r : List Char) : k.after? (s ++ r) = (k.after? s).map (· ++ r) := by
  have hword : ∀ c ∈ k.rawKeyword.toList, Text.isBlank c = false := by
    cases k <;> simp [rawKeyword, Text.isBlank]
  obtain ⟨happend, hrest⟩ := afterWord?_append hword hs r
  rw [after?, after?, happend]
  cases hafter : afterWord? k.rawKeyword.toList s with
  | none => rfl
  | some t =>
    obtain ⟨b, hb, -⟩ := hrest t hafter
    cases t with
    | nil => exact absurd hb List.not_mem_nil
    | cons c t =>
      simp only [Option.map_some, List.cons_append]
      split <;> rfl

/-- **What is cut off with a connective is found before the gap**: in front of it stands a word and
behind the word a blank. -/
theorem dropLeading_append {s : List Char} {a b : Char} (hs : [a, b].Sublist s)
    (ha : Text.isBlank a = false) (hb : Text.isBlank b = true) {c : Char}
    (hc : Text.isBlank c = false) (r : List Char) :
    dropLeading (s ++ c :: r) = dropLeading s ++ c :: r := by
  have hblank : ∃ b ∈ Text.dropBlanks s, Text.isBlank b = true := by
    obtain ⟨p, hp, hall⟩ := Text.exists_blanks_append_dropBlanks s
    rw [hp] at hs
    obtain ⟨l, l', heq, hl, hl'⟩ := List.sublist_append_iff.mp hs
    cases l with
    | nil =>
      obtain rfl : [a, b] = l' := heq
      exact ⟨b, hl'.subset (by simp), hb⟩
    | cons d l =>
      obtain ⟨rfl, -⟩ := List.cons.inj heq
      rw [hall a (hl.subset List.mem_cons_self)] at ha
      exact Bool.noConfusion ha
  rw [dropLeading, dropLeading, Text.dropBlanks_append_cons s hc, after?_append hblank,
    after?_append hblank, ← Option.map_or]
  cases (and.after? (Text.dropBlanks s)).or (or.after? (Text.dropBlanks s)) with
  | none => rfl
  | some rest => exact Text.dropBlanks_append_cons rest hc r

end Connective

section

variable (h : Anchored w f) (hw : Visible w)

include h

/-- In the joined text, what is in front of the gap holds the opening character and behind it a
blank. -/
theorem Anchored.joinWith (sep : String) (l r : List String) :
    ∃ u v a b, [a, b].Sublist u ∧ IsMark a ∧ Text.isBlank b = true ∧
      ∀ i, (Text.joinWith sep (l ++ f i :: r)).toList = u ++ (w i).toList ++ v := by
  obtain ⟨u, v, ⟨a, rest, b, hu, ha, hb, hblank⟩, hf⟩ := h
  refine ⟨(String.join (l.map (· ++ sep))).toList ++ u.toList,
    v.toList ++ (String.join (r.map (sep ++ ·))).toList, a, b, ?_, ha, hblank, fun i => ?_⟩
  · rw [hu]
    exact ((List.singleton_sublist.mpr hb).cons_cons a).trans (List.sublist_append_right ..)
  · rw [joinWith_append_cons, hf]
    simp only [String.toList_append, List.append_assoc]

/-- **Cutting commas off leaves the gap.** -/
theorem Anchored.dropCommas (sep : String) (l r : List String) :
    Spliced w fun i => String.ofList (Query.dropCommas (Text.joinWith sep (l ++ f i :: r)).toList) := by
  obtain ⟨u, v, a, b, hsub, ha, -, hf⟩ := h.joinWith sep l r
  have hmem : a ∈ u := hsub.subset List.mem_cons_self
  have hspace : a ≠ ' ' := by
    rintro rfl
    exact absurd ha (by decide)
  refine ⟨String.ofList (Query.dropCommas u), String.ofList v, fun i => ?_⟩
  beta_reduce
  rw [hf, List.append_assoc, Query.dropCommas_append hmem ha.2 hspace]
  simp only [String.ofList_append, String.ofList_toList, String.append_assoc]

include hw

/-- **Cutting a connective off leaves the gap.** -/
theorem Anchored.dropLeadingText (sep : String) (l r : List String) :
    Spliced w fun i => Connective.dropLeadingText (Text.joinWith sep (l ++ f i :: r)) := by
  obtain ⟨u, v, a, b, hsub, ha, hb, hf⟩ := h.joinWith sep l r
  refine ⟨String.ofList (Connective.dropLeading u), String.ofList v, fun i => ?_⟩
  obtain ⟨c, rest, hc, hvisible⟩ := hw i
  beta_reduce
  rw [Connective.dropLeadingText, hf, List.append_assoc, hc, List.cons_append,
    Connective.dropLeading_append hsub ha.1 hb hvisible, ← List.cons_append, ← hc]
  simp only [String.ofList_append, String.ofList_toList, String.append_assoc]

end

end FluentSql
