import FluentSql.Proofs.Page.Count
import Mathlib.Algebra.Order.Floor.Div
import Mathlib.Order.Interval.Finset.Nat

/-!
# Proofs/Page/Share — the pages of a query share out its rows

    rows    0 … size-1 │ size … 2·size-1 │ …              │ … total-1
    pages       1      │       2         │ …              │   last

Limit and offset cut a window out of the rows, and a page sets both (`Builder.limitedTo_forPage`).  The
number of the last page and the offset of a page are computed by words: the one is a quotient rounded
up, which never wraps around (`toNat_ceilQuotient`), the other a product that stays at the largest word.
A page up to the last starts at a row that there is (`le_lastPage_iff`), so its offset is exact, and a
row is on the page that dividing by the size gives (`mem_pageRows_iff`): no page shares a row with
another, and none is left out (`pages_share_out`).
-/

namespace FluentSql

/-! ## Words -/

/-- **A quotient rounded up**, by words: a remainder needs one more. -/
def ceilQuotient (n d : UInt64) : UInt64 := if n % d = 0 then n / d else n / d + 1

/-- **A product that stays at the largest word.** -/
def saturatedProduct (a b : UInt64) : UInt64 :=
  if a.toNat * b.toNat < UInt64.size then a * b else UInt64.ofNat (UInt64.size - 1)

theorem toNat_clamped (n : UInt64) : (max n 1).toNat = max n.toNat 1 := UInt64.toNat_max n 1

theorem clamped_pos (n : UInt64) : 0 < (max n 1).toNat := by
  rw [toNat_clamped]
  exact lt_max_of_lt_right Nat.one_pos

/-- A quotient rounded up, by its remainder. -/
theorem ceilDiv_eq_ite (n : Nat) {d : Nat} (hd : 0 < d) :
    n ⌈/⌉ d = if n % d = 0 then n / d else n / d + 1 := by
  refine eq_of_forall_ge_iff fun c => ?_
  rw [ceilDiv_le_iff_le_mul hd]
  split
  · next hzero =>
    have hdvd : d ∣ n := Nat.dvd_of_mod_eq_zero hzero
    rw [Nat.div_le_iff_le_mul_of_dvd hd.ne' hdvd, Nat.mul_comm]
  · next hrest =>
    have hne : n ≠ d * c := fun heq => hrest (heq ▸ Nat.mul_mod_right d c)
    rw [Nat.succ_le_iff, Nat.div_lt_iff_lt_mul hd, Nat.mul_comm c d]
    exact ⟨fun h => lt_of_le_of_ne h hne, le_of_lt⟩

theorem ceilDiv_le_self (n : Nat) {d : Nat} (hd : 0 < d) : n ⌈/⌉ d ≤ n :=
  (ceilDiv_le_iff_le_mul hd).mpr (Nat.le_mul_of_pos_left n hd)

/-- **Rounding up never wraps around.** -/
theorem toNat_ceilQuotient (n : UInt64) {d : UInt64} (hd : 0 < d.toNat) :
    (ceilQuotient n d).toNat = n.toNat ⌈/⌉ d.toNat := by
  have hceil := ceilDiv_eq_ite n.toNat hd
  have hmod : n % d = 0 ↔ n.toNat % d.toNat = 0 := by
    rw [← UInt64.toNat_inj, UInt64.toNat_mod, UInt64.toNat_zero]
  rw [ceilQuotient]
  split
  · next hzero => rw [hceil, if_pos (hmod.mp hzero), UInt64.toNat_div]
  · next hrest =>
    rw [if_neg (mt hmod.mpr hrest)] at hceil
    have hword : n.toNat / d.toNat + 1 < 2 ^ 64 :=
      hceil ▸ (ceilDiv_le_self n.toNat hd).trans_lt n.toNat_lt
    rw [UInt64.toNat_add, UInt64.toNat_div, UInt64.toNat_one, Nat.mod_eq_of_lt hword, hceil]

theorem toNat_lastPage (total size : UInt64) :
    (lastPage total size).toNat = max (total.toNat ⌈/⌉ (max size 1).toNat) 1 := by
  rw [lastPage, UInt64.toNat_ofNat', toNat_clamped]
  refine Nat.mod_eq_of_lt (max_lt ?_ (by decide))
  exact (ceilDiv_le_self total.toNat (lt_max_of_lt_right Nat.one_pos)).trans_lt total.toNat_lt

theorem toNat_pageOffset (page size : UInt64) :
    (pageOffset page size).toNat =
      min (UInt64.size - 1) ((max page.toNat 1 - 1) * size.toNat) := by
  rw [pageOffset, UInt64.toNat_ofNat']
  exact Nat.mod_eq_of_lt (lt_of_le_of_lt (min_le_left _ _) (by decide))

/-- **The last page by words.** -/
theorem lastPage_eq_words (total size : UInt64) :
    lastPage total size = max (ceilQuotient total (max size 1)) 1 := by
  rw [← UInt64.toNat_inj, toNat_lastPage, toNat_clamped (ceilQuotient ..),
    toNat_ceilQuotient total (clamped_pos size)]

/-- The page before another one, by words. -/
theorem toNat_clamped_sub_one (page : UInt64) : (max page 1 - 1).toNat = max page.toNat 1 - 1 := by
  have hle : (1 : UInt64) ≤ max page 1 := UInt64.le_iff_toNat_le.mpr (clamped_pos page)
  rw [UInt64.toNat_sub_of_le _ _ hle, toNat_clamped, UInt64.toNat_one]

/-- **The offset of a page by words.** -/
theorem pageOffset_eq_words (page size : UInt64) :
    pageOffset page size = saturatedProduct (max page 1 - 1) size := by
  rw [← UInt64.toNat_inj, toNat_pageOffset, saturatedProduct, toNat_clamped_sub_one]
  split
  · next hfits =>
    rw [min_eq_right (Nat.le_sub_one_of_lt hfits), UInt64.toNat_mul, toNat_clamped_sub_one,
      Nat.mod_eq_of_lt hfits]
  · next hover => rw [min_eq_left (by omega), UInt64.toNat_ofNat', Nat.mod_eq_of_lt (by decide)]

/-! ## Windows -/

/-- **The rows of a page**, by their indices: as many as the limit allows, from the offset on. -/
def pageRows (size page : UInt64) : Finset Nat :=
  Finset.Ico (pageOffset page size).toNat ((pageOffset page size).toNat + size.toNat)

section

variable {total size page : UInt64}

/-- **A page up to the last starts at a row that there is**, and no other page does but the first. -/
theorem le_lastPage_iff (hsize : 0 < size.toNat) (hpage : 1 ≤ page) :
    page ≤ lastPage total size ↔ page = 1 ∨ (page.toNat - 1) * size.toNat < total.toNat := by
  have hone : 1 ≤ page.toNat := UInt64.le_iff_toNat_le.mp hpage
  have hsize' : (max size 1).toNat = size.toNat := by rw [toNat_clamped, max_eq_left hsize]
  rw [UInt64.le_iff_toNat_le, toNat_lastPage, hsize', le_max_iff, or_comm]
  refine or_congr ?_ ?_
  · rw [← UInt64.toNat_inj, UInt64.toNat_one]
    exact ⟨fun h => le_antisymm h hone, le_of_eq⟩
  · have hbefore : page.toNat ≤ total.toNat ⌈/⌉ size.toNat ↔
        ¬ total.toNat ⌈/⌉ size.toNat ≤ page.toNat - 1 := by omega
    rw [hbefore, ceilDiv_le_iff_le_mul hsize, not_le, Nat.mul_comm]

/-- **The offset of a page up to the last does not saturate.** -/
theorem toNat_pageOffset_of_le (hsize : 0 < size.toNat) (hpage : 1 ≤ page)
    (hlast : page ≤ lastPage total size) :
    (pageOffset page size).toNat = (page.toNat - 1) * size.toNat := by
  have hone : 1 ≤ page.toNat := UInt64.le_iff_toNat_le.mp hpage
  rw [toNat_pageOffset, max_eq_left hone, min_eq_right]
  rcases (le_lastPage_iff hsize hpage).mp hlast with rfl | hstart
  · rw [UInt64.toNat_one, Nat.sub_self, Nat.zero_mul]
    exact Nat.zero_le _
  · exact Nat.le_sub_one_of_lt (hstart.trans total.toNat_lt)

/-- **A row is on the page that dividing by the size gives.** -/
theorem mem_pageRows_iff (hsize : 0 < size.toNat) (hpage : 1 ≤ page)
    (hlast : page ≤ lastPage total size) {row : Nat} :
    row ∈ pageRows size page ↔ page.toNat = row / size.toNat + 1 := by
  have hone : 1 ≤ page.toNat := UInt64.le_iff_toNat_le.mp hpage
  have hnumber : page.toNat = row / size.toNat + 1 ↔ row / size.toNat = page.toNat - 1 := by omega
  rw [hnumber, Nat.div_eq_iff hsize, pageRows, Finset.mem_Ico,
    toNat_pageOffset_of_le hsize hpage hlast]
  omega

/-- The page that a row is on. -/
theorem exists_page (hsize : 0 < size.toNat) {row : Nat} (hrow : row < total.toNat) :
    ∃ page, 1 ≤ page ∧ page ≤ lastPage total size ∧ row ∈ pageRows size page := by
  have hword : row / size.toNat + 1 < 2 ^ 64 :=
    (Nat.succ_le_of_lt ((Nat.div_le_self ..).trans_lt hrow)).trans_lt total.toNat_lt
  have hnumber : (UInt64.ofNat (row / size.toNat + 1)).toNat = row / size.toNat + 1 := by
    rw [UInt64.toNat_ofNat', Nat.mod_eq_of_lt hword]
  have hpage : 1 ≤ UInt64.ofNat (row / size.toNat + 1) := by
    rw [UInt64.le_iff_toNat_le, hnumber, UInt64.toNat_one]
    exact Nat.le_add_left 1 _
  have hlast : UInt64.ofNat (row / size.toNat + 1) ≤ lastPage total size := by
    rw [le_lastPage_iff hsize hpage, hnumber, Nat.add_sub_cancel]
    exact .inr ((Nat.div_mul_le_self ..).trans_lt hrow)
  exact ⟨_, hpage, hlast, (mem_pageRows_iff hsize hpage hlast).mpr hnumber⟩

/-- A page up to the last begins before the total, if there is a row at all. -/
theorem pageOffset_lt (hsize : 0 < size.toNat) (htotal : 0 < total) (hpage : 1 ≤ page)
    (hlast : page ≤ lastPage total size) : (pageOffset page size).toNat < total.toNat := by
  rw [toNat_pageOffset_of_le hsize hpage hlast]
  rcases (le_lastPage_iff hsize hpage).mp hlast with rfl | hstart
  · rw [UInt64.toNat_one, Nat.sub_self, Nat.zero_mul]
    exact UInt64.lt_iff_toNat_lt.mp htotal
  · exact hstart

/-- **A page behind the last begins behind every row**, be its offset exact or the largest word. -/
theorem le_pageOffset (hsize : 0 < size.toNat) (hlast : lastPage total size < page) :
    total ≤ pageOffset page size := by
  have hone : 1 ≤ (lastPage total size).toNat := by
    rw [toNat_lastPage]
    exact le_max_right ..
  have hlast' : (lastPage total size).toNat < page.toNat := UInt64.lt_iff_toNat_lt.mp hlast
  have hpage : 1 ≤ page := UInt64.le_iff_toNat_le.mpr (hone.trans hlast'.le)
  have hbehind : ¬ (page = 1 ∨ (page.toNat - 1) * size.toNat < total.toNat) := by
    rw [← le_lastPage_iff hsize hpage, UInt64.not_le]
    exact hlast
  rw [UInt64.le_iff_toNat_le, toNat_pageOffset, max_eq_left (hone.trans hlast'.le)]
  exact le_min (Nat.le_sub_one_of_lt total.toNat_lt) (not_lt.mp (not_or.mp hbehind).2)

end

/-- **Pages that share out the rows below a total.** -/
structure SharesOut (total size last : UInt64) : Prop where
  /-- Offsets are exact. -/
  exact : ∀ page, 1 ≤ page → page ≤ last →
    (pageOffset page size).toNat = (page.toNat - 1) * size.toNat
  /-- No row is on two pages. -/
  disjoint : ∀ p q, 1 ≤ p → p ≤ last → 1 ≤ q → q ≤ last → p ≠ q →
    Disjoint (pageRows size p) (pageRows size q)
  /-- Every row is on a page. -/
  covered : ∀ row < total.toNat, ∃ page, 1 ≤ page ∧ page ≤ last ∧ row ∈ pageRows size page
  /-- No page is empty, if there is a row at all. -/
  inhabited : 0 < total → ∀ page, 1 ≤ page → page ≤ last →
    ∃ row ∈ pageRows size page, row < total.toNat
  /-- Behind the last page there is no row, though offsets saturate there. -/
  beyond : ∀ page, last < page → total ≤ pageOffset page size

/-- **The pages up to the last share out the rows.** -/
theorem sharesOut_lastPage (total : UInt64) {size : UInt64} (hsize : 0 < size.toNat) :
    SharesOut total size (lastPage total size) where
  exact _ := toNat_pageOffset_of_le hsize
  disjoint p q hp hplast hq hqlast hne := by
    refine Finset.disjoint_left.mpr fun row hrow hrow' => hne ?_
    rw [mem_pageRows_iff hsize hp hplast] at hrow
    rw [mem_pageRows_iff hsize hq hqlast] at hrow'
    exact UInt64.toNat_inj.mp (hrow.trans hrow'.symm)
  covered _ := exists_page hsize
  inhabited htotal page hpage hlast :=
    ⟨_, Finset.mem_Ico.mpr ⟨le_rfl, Nat.lt_add_of_pos_right hsize⟩,
      pageOffset_lt hsize htotal hpage hlast⟩
  beyond _ := le_pageOffset hsize

/-! ## Reading a page -/

/-- **A builder with a limit and an offset**, in place of those it had, and otherwise as it was. -/
structure Builder.LimitedTo (b b' : Builder) (limit offset : UInt64) : Prop where
  rest : b' = { b with query := b'.query }
  limits : b'.query.part .limits = ⟨[.text "?"], [.ofUInt64 limit]⟩
  offset : b'.query.part .offset = ⟨[.text "?"], [.ofUInt64 offset]⟩
  others : Query.SameRows b.query b'.query

/-- **A page limits a builder to its window of rows.** -/
theorem Builder.limitedTo_forPage (b : Builder) (page size : UInt64) :
    b.LimitedTo (b.call (.forPage page size)) size (pageOffset page size) :=
  ⟨rfl, rfl, rfl, b.query.sameRows_paged size (pageOffset page size)⟩

/-- **What a page that is read tells of its own size and number**, and of the last page. -/
theorem Database.getPage_answer {σ : Type} (db : Database σ) (b : Builder)
    {s after : SessionState σ} {answer : Page}
    (h : (db.getPage b).play s = (.ok answer, after)) :
    answer.perPage = max (b.perPage.getD defaultPerPage) 1 ∧
      answer.currentPage = max (b.page.getD 1) 1 ∧
      answer.lastPage = lastPage answer.total answer.perPage := by
  rw [getPage, Session.play_bind] at h
  split at h
  · rw [Session.play_bind] at h
    split at h
    · cases h
      exact ⟨rfl, rfl, rfl⟩
    · cases h
  · cases h

/-- **The pages of a query share out its rows.**  Whatever the total and the size asked for, a size of
zero counting as one: no step of finding the last page divides by zero or wraps around, nor does one
of finding an offset but for the product that stays at the largest word; up to the last page offsets
are exact, no row is on two pages, each row is on one, and no page is empty if there is a row; behind
it there is no row; and page zero is the first.  That size and that offset are what a page sets as limit
and offset of any builder, and what a page that is read binds in the SELECT of its items; the last page
is the one it tells. -/
theorem pages_share_out (total requested : UInt64) :
    let size := max requested 1
    let last := lastPage total size
    (size ≠ 0 ∧ last = max (ceilQuotient total size) 1 ∧
        (ceilQuotient total size).toNat = total.toNat ⌈/⌉ size.toNat) ∧
      (∀ page, pageOffset page size = saturatedProduct (max page 1 - 1) size ∧
        (max page 1 - 1).toNat = max page.toNat 1 - 1) ∧
      SharesOut total size last ∧
      (∀ (b : Builder) (page : UInt64),
        b.LimitedTo (b.call (.forPage page size)) size (pageOffset page size)) ∧
      Edit.forPage 0 size = Edit.forPage 1 size ∧
      ∀ {σ : Type} (db : Database σ) (b : Builder), b.perPage = some requested →
        let q := b.query
        let current := max (b.page.getD 1) 1
        (b.error = none →
          (db.watched.getPage b).Executes
            [⟨q.front ++ " LIMIT ? OFFSET ?" ++ q.back,
                q.frontBindings ++ [.ofUInt64 size, .ofUInt64 (pageOffset current size)] ++
                  (q.part .unions).bindings⟩,
              (⟨q.select, q.bindings⟩ : Statement).counted b.target.dialect]) ∧
        ∀ (s after : SessionState σ) (answer : Page), (db.getPage b).play s = (.ok answer, after) →
          answer.currentPage = current ∧
          (answer.total = total → answer.perPage = size ∧ answer.lastPage = last) := by
  intro size last
  have hsize : 0 < size.toNat := clamped_pos requested
  have hclamped : max size 1 = size := by
    rw [← UInt64.toNat_inj, toNat_clamped, max_eq_left hsize]
  have hne : size ≠ 0 := fun hzero => hsize.ne' (congrArg UInt64.toNat hzero)
  have hlast : last = max (ceilQuotient total size) 1 := by
    rw [← hclamped]
    exact lastPage_eq_words total size
  refine ⟨⟨hne, hlast, toNat_ceilQuotient total hsize⟩,
    fun page => ⟨pageOffset_eq_words page size, toNat_clamped_sub_one page⟩,
    sharesOut_lastPage total hsize, fun b page => b.limitedTo_forPage page size, rfl, ?_⟩
  intro σ db b hrequested q current
  have hperPage : max (b.perPage.getD defaultPerPage) 1 = size := by
    rw [hrequested, Option.getD_some]
  refine ⟨fun herror => ?_, fun s after answer hplay => ?_⟩
  · have hexecutes := db.executes_getPage herror
    simp only at hexecutes
    rwa [hperPage, q.statement_paged] at hexecutes
  · obtain ⟨hanswered, hcurrent, hlast'⟩ := db.getPage_answer b hplay
    refine ⟨hcurrent, ?_⟩
    rintro rfl
    rw [hperPage] at hanswered
    exact ⟨hanswered, hlast'.trans (congrArg (lastPage answer.total) hanswered)⟩

/-- Twenty-one rows in tens, as a session answers them: the last page is the third and has one row,
and so far behind it that the offset saturates there is none. -/
theorem pages_share_out_ragged :
    let db : Database Script := ⟨Script.connection none, .mysql⟩
    let b := (Builder.new db.target).calls [.table "users", .perPage 10, .page 3]
    let row : Row := ⟨[("id", .int 21)]⟩
    let s : SessionState Script :=
      { link := { outcomes := [.ok { rows := [row] }, .ok { rows := [⟨[("aggregate", .int 21)]⟩] }] } }
    let answer : Page := ⟨[row], 21, 3, 10, 3⟩
    let items : Statement := ⟨"SELECT * FROM `users` LIMIT ? OFFSET ?", [.int 10, .int 20]⟩
    let limited := (b.call (.forPage 3 10)).query
    (b.perPage = some 10 ∧ b.error = none ∧ ((db.getPage b).play s).1.toOption = some answer) ∧
      (db.watched.getPage b).Executes
        [items, (⟨"SELECT * FROM `users`", []⟩ : Statement).counted .mysql] ∧
      (limited.part .limits = ⟨[.text "?"], [.int 10]⟩ ∧
        limited.part .offset = ⟨[.text "?"], [.int 20]⟩) ∧
      answer.lastPage = lastPage 21 10 ∧ lastPage 21 10 = 3 ∧
      20 ∈ pageRows 10 3 ∧ Disjoint (pageRows 10 2) (pageRows 10 3) ∧
      pageOffset 18446744073709551615 10 = 18446744073709551615 ∧
      21 ≤ pageOffset 18446744073709551615 10 := by
  intro db b row s answer items limited
  obtain ⟨-, -, hshare, hlimited, -, hread⟩ := pages_share_out 21 10
  have hsize : b.perPage = some 10 := by decide +kernel
  have herror : b.error = none := by decide +kernel
  have hoption : ((db.getPage b).play s).1.toOption = some answer := by decide +kernel
  obtain ⟨after, hplay⟩ : ∃ after, (db.getPage b).play s = (.ok answer, after) := by
    rcases hrun : (db.getPage b).play s with ⟨_ | found, after⟩
    · rw [hrun] at hoption
      cases hoption
    · rw [hrun] at hoption
      exact ⟨after, by rw [Option.some.inj hoption]⟩
  obtain ⟨hexecutes, hanswer⟩ := hread db b hsize
  have hlast : lastPage 21 10 = 3 := by decide +kernel
  have hten : Value.ofUInt64 10 = .int 10 := by decide +kernel
  have htwenty : Value.ofUInt64 (pageOffset 3 10) = .int 20 := by decide +kernel
  refine ⟨⟨hsize, herror, hoption⟩, ?_, ⟨?_, ?_⟩, ((hanswer s after answer hplay).2 rfl).2, hlast,
    by decide +kernel, hshare.disjoint 2 3 (by decide) (by decide +kernel) (by decide)
      (by decide +kernel) (by decide), by decide +kernel, hshare.beyond _ (by decide +kernel)⟩
  · convert hexecutes herror using 1
    decide +kernel
  · exact hten ▸ (hlimited b 3).limits
  · exact htwenty ▸ (hlimited b 3).offset

end FluentSql
