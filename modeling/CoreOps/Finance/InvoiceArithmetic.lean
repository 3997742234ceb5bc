import CoreOps.Finance.Ledger

/-! The figures of a stored invoice against each other. A line is multiplied out as it was
sent and its factors are rounded by their columns afterwards, so the stored product is the
stored total of the line when both products have the same nearest cent. -/

namespace CoreOps.Finance

open Checked

/-- The product of the stored figures. -/
def InvoiceLine.product (l : InvoiceLine) : ℚ := l.quantity / 10000 * ofCents l.unitPrice

/-- Each line total is the stored quantity times the stored price, to the cent, and the
subtotal and the total are the sum of the line totals. -/
def FiguresAgree (i : Invoice) : Prop :=
  (∀ l ∈ i.lines, l.lineTotal = Decimal.roundHalfEven (l.product * 100)) ∧
    i.subtotal = (i.lines.map (·.lineTotal)).sum ∧ i.total = (i.lines.map (·.lineTotal)).sum

/-- The product of the figures of a line at the scales of their columns. -/
def InvoiceLineCreate.storedProduct (line : InvoiceLineCreate) : ℚ :=
  Decimal.roundHalfAway (line.quantity * 10000) / 10000 * ofCents (toCents line.unitPrice)

/-- One cent is the nearest to the product of the line as it is sent and to the one of its
figures at the scales of their columns. -/
def SameCent (line : InvoiceLineCreate) : Prop :=
  ∃ c, Decimal.NearestEven c (mul line.quantity line.unitPrice * 100) ∧
    Decimal.NearestEven c (line.storedProduct * 100)

def lineTotalOf (line : InvoiceLineCreate) : ℤ := Decimal.roundHalfEven (mul line.quantity line.unitPrice * 100)

/-- The running sum of the line totals, which keeps 28 digits, ends at their sum. -/
def AddsExactly (lines : List InvoiceLineCreate) : Prop :=
  toCents (subtotalOf lines) = (lines.map lineTotalOf).sum

theorem sameCent_iff {line : InvoiceLineCreate} :
    SameCent line ↔ lineTotalOf line = Decimal.roundHalfEven (line.storedProduct * 100) := by
  constructor
  · rintro ⟨c, hsent, hstored⟩
    rw [lineTotalOf, Decimal.roundHalfEven_eq_iff.2 hsent, Decimal.roundHalfEven_eq_iff.2 hstored]
  · intro h
    refine ⟨lineTotalOf line, Decimal.roundHalfEven_eq_iff.1 rfl, ?_⟩
    rw [h]
    exact Decimal.roundHalfEven_eq_iff.1 rfl

/-! The two conditions hold of figures that the columns can hold. -/

/-- A line of at most four decimals in its quantity and two in its price. -/
theorem sameCent_of_scale {line : InvoiceLineCreate} {k c : ℤ} (hquantity : line.quantity = k / 10000)
    (hprice : line.unitPrice = ofCents c) (hfits : |line.quantity * line.unitPrice| < 10 ^ (22 : ℤ)) : SameCent line := by
  have hexact : mul line.quantity line.unitPrice = line.quantity * line.unitPrice := by
    refine Decimal.toPrecision_eq_self (p := 28) (s := 6) (k := k * c) (by norm_num) ?_ ?_
    · exact hfits
    · rw [hquantity, hprice, ofCents]
      push_cast
      norm_num
      ring
  have hstored : line.storedProduct = line.quantity * line.unitPrice := by
    have hk : line.quantity * 10000 = k := by rw [hquantity]; field_simp
    rw [InvoiceLineCreate.storedProduct, hk, Decimal.roundHalfAway_intCast, hprice, toCents_ofCents, hquantity]
  rw [sameCent_iff, lineTotalOf, hexact, hstored]

/-- A running sum whose steps stay within the context is the sum. -/
theorem foldl_add_lines {lines : List InvoiceLineCreate} {c : ℤ}
    (hfits : ∀ n, (c + ((lines.take n).map lineTotalOf).sum).natAbs < 10 ^ 26) :
    lines.foldl (fun acc l => add acc (ofCents (lineTotalOf l))) (ofCents c) =
      ofCents (c + (lines.map lineTotalOf).sum) := by
  induction lines generalizing c with
  | nil => simp
  | cons line lines ih =>
    have hfirst : (c + lineTotalOf line).natAbs < 10 ^ 26 := by simpa using hfits 1
    rw [List.foldl_cons, add_ofCents hfirst, ih, List.map_cons, List.sum_cons, add_assoc]
    intro n
    simpa [add_assoc] using hfits (n + 1)

theorem addsExactly_of_fits {lines : List InvoiceLineCreate}
    (hfits : ∀ n, (((lines.take n).map lineTotalOf).sum).natAbs < 10 ^ 26) : AddsExactly lines := by
  have hsum : lines.foldl (fun acc l => add acc (ofCents (lineTotalOf l))) (ofCents 0) =
      ofCents (0 + (lines.map lineTotalOf).sum) := foldl_add_lines (by simpa using hfits)
  have hzero : ofCents 0 = 0 := by simp [ofCents]
  rw [hzero, zero_add] at hsum
  have hsub : subtotalOf lines = ofCents (lines.map lineTotalOf).sum := hsum
  rw [AddsExactly, hsub, toCents_ofCents]

/-! What is stored. -/

/-- The row of a line: its figures at the scales of the columns, and the total of the
product as it was sent. -/
structure StoredAs (line : InvoiceLineCreate) (l : InvoiceLine) : Prop where
  quantity : l.quantity = Decimal.roundHalfAway (line.quantity * 10000)
  unitPrice : l.unitPrice = toCents line.unitPrice
  lineTotal : l.lineTotal = lineTotalOf line

theorem createInvoiceLine_stored {caller : Caller} {s : State} {acc acc' : ℚ × List InvoiceLine}
    {entry : InvoiceLineCreate × ℕ} (h : createInvoiceLine caller s acc entry = .ok acc') :
    ∃ l, acc'.2 = acc.2 ++ [l] ∧ StoredAs entry.1 l := by
  simp only [createInvoiceLine, addLine, quantize, quantityColumn, bind_eq_ok, raiseIf_eq_ok, pure_eq_ok] at h
  obtain ⟨-, -, _, ⟨c, ⟨-, -, rfl⟩, rfl⟩, _, ⟨-, -, rfl⟩, _, hprice, _, htotal, rfl⟩ := h
  refine ⟨_, rfl, rfl, (moneyColumn_ok hprice).1, ?_⟩
  rw [(moneyColumn_ok htotal).1]
  exact toCents_ofCents _

theorem createInvoiceLines_stored {caller : Caller} {s : State} {lines : List InvoiceLineCreate} {n : ℕ}
    {acc acc' : ℚ × List InvoiceLine} (h : (lines.zipIdx n).foldlM (createInvoiceLine caller s) acc = .ok acc') :
    ∃ rows, acc'.2 = acc.2 ++ rows ∧ List.Forall₂ StoredAs lines rows := by
  induction lines generalizing n acc with
  | nil =>
    rw [List.zipIdx_nil, List.foldlM_nil, pure_eq_ok] at h
    exact ⟨[], by rw [← h, List.append_nil], .nil⟩
  | cons line lines ih =>
    rw [List.zipIdx_cons, List.foldlM_cons, bind_eq_ok] at h
    obtain ⟨acc₁, h₁, h₂⟩ := h
    obtain ⟨l, hacc₁, hl⟩ := createInvoiceLine_stored h₁
    obtain ⟨rows, hacc', hrows⟩ := ih h₂
    refine ⟨l :: rows, ?_, .cons hl hrows⟩
    rw [hacc', hacc₁, List.append_assoc, List.singleton_append]

theorem issueInvoice_figures {clock : Clock} {i i' : Invoice} {x y : ℚ} (h : issueInvoice clock i x y = .ok i') :
    i'.lines = i.lines ∧ i'.subtotal = i.subtotal ∧ i'.total = i.total := by
  simp only [issueInvoice, bind_eq_ok, raiseIf_eq_ok, pure_eq_ok] at h
  obtain ⟨-, -, rfl⟩ := h
  exact ⟨rfl, rfl, rfl⟩

theorem createInvoice_stored {caller : Caller} {clock : Clock} {invoiceId : ℕ} {payload : InvoiceCreate} {s s' : State}
    (h : createInvoice caller clock invoiceId payload s = .ok s') :
    ∃ i, s'.invoices.get? invoiceId = some i ∧ List.Forall₂ StoredAs payload.lines i.lines ∧
      i.subtotal = toCents (subtotalOf payload.lines) ∧ i.total = toCents (subtotalOf payload.lines) := by
  simp only [createInvoice, bind_eq_ok, raiseIf_eq_ok, pure_eq_ok, not_or, Option.not_isSome_iff_eq_none] at h
  obtain ⟨-, -, -, -, -, -, -, -, -, ⟨hnone, -⟩, ⟨subtotal, lines⟩, hlines, total, htotal, i, hi, rfl⟩ := h
  have hsub : subtotal = subtotalOf payload.lines := createInvoiceLines_subtotal hlines
  obtain ⟨rfl, -⟩ := moneyColumn_ok htotal
  obtain ⟨rows, hrows, hstored⟩ := createInvoiceLines_stored hlines
  obtain rfl : lines = rows := hrows
  refine ⟨i, ?_, ?_⟩
  · rw [Table.get?_insert_new _ _ _ hnone, if_pos rfl]
  · rw [← hsub]
    unfold issueIf at hi
    split at hi
    · obtain ⟨h₁, h₂, h₃⟩ := issueInvoice_figures hi
      rw [h₁, h₂, h₃]
      exact ⟨hstored, rfl, rfl⟩
    · rw [← pure_eq_ok.1 hi]
      exact ⟨hstored, rfl, rfl⟩

/-- The figures of a created invoice agree if and only if each line has the same nearest
cent as sent and as stored, and the running sum of the line totals is their sum. -/
theorem invoice_figures_agree_iff (caller : Caller) (clock : Clock) (invoiceId : ℕ) (payload : InvoiceCreate)
    (s s' : State) (h : createInvoice caller clock invoiceId payload s = .ok s') :
    ∃ i, s'.invoices.get? invoiceId = some i ∧
      (FiguresAgree i ↔ (∀ line ∈ payload.lines, SameCent line) ∧ AddsExactly payload.lines) := by
  obtain ⟨i, hi, hlines, hsub, htotal⟩ := createInvoice_stored h
  have hsum : (i.lines.map (·.lineTotal)).sum = (payload.lines.map lineTotalOf).sum :=
    congrArg List.sum (map_eq_map_of_forall₂ hlines fun line l hl => hl.lineTotal)
  have hline : ∀ line l, StoredAs line l →
      (l.lineTotal = Decimal.roundHalfEven (l.product * 100) ↔ SameCent line) := by
    intro line l hl
    rw [sameCent_iff, hl.lineTotal, InvoiceLine.product, hl.quantity, hl.unitPrice]
    rfl
  refine ⟨i, hi, ?_⟩
  rw [FiguresAgree, hsub, htotal, hsum, and_self]
  refine and_congr ⟨fun hrows line hmem => ?_, fun hsame l hmem => ?_⟩ Iff.rfl
  · obtain ⟨l, hl, hstored⟩ := exists_of_mem_forall₂_left hlines hmem
    exact (hline line l hstored).1 (hrows l hl)
  · obtain ⟨line, hl, hstored⟩ := exists_of_mem_forall₂ hlines hmem
    exact (hline line l hstored).2 (hsame line hl)

section Examples

/-- The theorem at one service of 10.00. -/
theorem invoice_figures_agree_single : ∃ s' i, createInvoice demoCaller demoClock 1 demoInvoice demoState = .ok s' ∧
    s'.invoices.get? 1 = some i ∧ FiguresAgree i := by
  have hok : (createInvoice demoCaller demoClock 1 demoInvoice demoState).isOk = true := by decide +kernel
  obtain ⟨s', hs'⟩ := exists_of_isOk hok
  obtain ⟨i, hi, hiff⟩ := invoice_figures_agree_iff demoCaller demoClock 1 demoInvoice demoState s' hs'
  refine ⟨s', i, hs', hi, hiff.2 ⟨?_, ?_⟩⟩
  · intro line hline
    obtain rfl := List.mem_singleton.1 hline
    exact sameCent_of_scale (k := 10000) (c := 1000) (by norm_num) (by norm_num [ofCents]) (by norm_num)
  · rw [AddsExactly]
    decide +kernel

/-- A thousand pieces at half a cent. -/
def bulkInvoice : InvoiceCreate :=
  ⟨1, none, none, none, none, "RUB", none, none, [⟨none, "Screws", 1000, 5 / 1000, 0, by norm_num⟩], false, by simp⟩

/-- The line is stored with a total of 5.00 beside a quantity of 1000 and a price of 0.01. -/
theorem bulk_line_disagrees : ∃ s', createInvoice demoCaller demoClock 1 bulkInvoice demoState = .ok s' ∧
    ¬ ∃ i, s'.invoices.get? 1 = some i ∧ FiguresAgree i := by
  have hok : (createInvoice demoCaller demoClock 1 bulkInvoice demoState).isOk = true := by decide +kernel
  obtain ⟨s', hs'⟩ := exists_of_isOk hok
  refine ⟨s', hs', ?_⟩
  rintro ⟨i, hi, hlines, -, -⟩
  obtain ⟨j, hj, hstored, -, -⟩ := createInvoice_stored hs'
  obtain rfl := Option.some.inj (hi.symm.trans hj)
  obtain ⟨l, hl, hstored⟩ := exists_of_mem_forall₂_left hstored List.mem_cons_self
  have hagree := hlines l hl
  rw [hstored.lineTotal, InvoiceLine.product, hstored.quantity, hstored.unitPrice] at hagree
  revert hagree
  decide +kernel

end Examples

end CoreOps.Finance
