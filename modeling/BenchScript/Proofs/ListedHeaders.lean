import BenchScript.Proofs.CommandTables
import BenchScript.Proofs.Headers

/-!
# Looking up listed headers

A header that a table lists is taken for a command line when it is looked up, so one final query
mark is dropped. A listed header without such a mark leads to its own command; with one it leads to
the command of the header without the mark, if there is any (`listed_header_found`).
-/

namespace BenchScript

namespace CommandTable

/-- A listed header is looked up without its final query mark. -/
theorem lookup_of_mem_headers {cs : List Command} {h : String}
    (hlisted : h ∈ (ofList cs).headers) :
    (ofList cs).lookup h = (ofList cs).commands[String.ofList (dropQuery h.toList)]? := by
  obtain ⟨c, -, rfl⟩ := mem_headers_ofList.1 hlisted
  rw [lookup, Command.header, normalizeHeader_normalizeHeader]

end CommandTable

/-- **Listed headers.** A listed header without a query mark at its end is found as the header of a
command. One that ends with a query mark is never found as such: it leads to the command that is
stored under the header without the mark, and to none if that header is not listed. -/
theorem listed_header_found (cs : List Command) {h : String}
    (hlisted : h ∈ (CommandTable.ofList cs).headers) :
    let t := CommandTable.ofList cs
    (h.toList.getLast? ≠ some '?' → ∃ c ∈ cs, t.lookup h = some c ∧ c.header = h) ∧
    ∀ stem, h = stem ++ "?" →
      t.lookup h = t.commands[stem]? ∧
      (∀ c, t.lookup h = some c → c.header = stem) ∧
      (t.lookup h = none ↔ stem ∉ t.headers) := by
  intro t
  have hlookup : t.lookup h = lastWithHeader cs (String.ofList (dropQuery h.toList)) := by
    rw [← CommandTable.getElem?_ofList]
    exact CommandTable.lookup_of_mem_headers hlisted
  refine ⟨fun hmark => ?_, fun stem hstem => ?_⟩
  · rw [dropQuery, if_neg hmark, String.ofList_toList] at hlookup
    obtain ⟨c, hc⟩ := CommandTable.mem_headers_iff.1 hlisted
    rw [CommandTable.getElem?_ofList] at hc
    obtain ⟨hmem, hheader⟩ := mem_of_lastWithHeader hc
    exact ⟨c, hmem, hlookup.trans hc, hheader⟩
  · have hdrop : String.ofList (dropQuery h.toList) = stem := by
      have hchars : h.toList = stem.toList ++ ['?'] := by
        rw [hstem, String.toList_append]
        rfl
      rw [dropQuery, hchars, List.getLast?_concat, if_pos rfl, List.dropLast_concat,
        String.ofList_toList]
    rw [hdrop] at hlookup
    refine ⟨hlookup.trans (CommandTable.getElem?_ofList cs stem).symm,
      fun c hc => (mem_of_lastWithHeader (hlookup.symm.trans hc)).2, ?_⟩
    rw [hlookup, lastWithHeader_eq_none_iff, CommandTable.mem_headers_ofList]
    simp

/-! ## A query with an argument -/

/-- A query with an argument: its query mark stands within the line. -/
def measureQuery : Command := { scpi := "MEASUrement:MEAS<x>:VALue? CH1" }

theorem measureQuery_listed :
    "MEASUREMENT:MEAS:VALUE?" ∈ (CommandTable.ofList [scaleWrite, measureQuery]).headers := by
  decide +kernel

/-- The header of the scale is found, that of the query with an argument is not. -/
theorem listed_header_found_scale :
    let t := CommandTable.ofList [scaleWrite, measureQuery]
    ("HORIZONTAL:SCALE" ∈ t.headers ∧
      ∃ c ∈ [scaleWrite, measureQuery], t.lookup "HORIZONTAL:SCALE" = some c ∧
        c.header = "HORIZONTAL:SCALE") ∧
    "MEASUREMENT:MEAS:VALUE?" ∈ t.headers ∧ t.lookup "MEASUREMENT:MEAS:VALUE?" = none := by
  intro t
  have hscale : "HORIZONTAL:SCALE" ∈ t.headers := by decide +kernel
  obtain ⟨hfound, -⟩ := listed_header_found _ hscale
  obtain ⟨-, hquery⟩ := listed_header_found _ measureQuery_listed
  exact ⟨⟨hscale, hfound (by decide)⟩, measureQuery_listed,
    (hquery "MEASUREMENT:MEAS:VALUE" (by decide)).2.2.2 (by decide +kernel)⟩

/-- Not every listed header is found. -/
theorem not_every_listed_header_found :
    ¬ ∀ (cs : List Command) (h : String), h ∈ (CommandTable.ofList cs).headers →
      ∃ c, (CommandTable.ofList cs).lookup h = some c ∧ c.header = h := by
  intro hall
  obtain ⟨c, hc, -⟩ := hall _ _ measureQuery_listed
  have hnone : (CommandTable.ofList [scaleWrite, measureQuery]).lookup
      "MEASUREMENT:MEAS:VALUE?" = none := by
    rw [CommandTable.lookup_ofList, lastWithHeader_eq_none_iff]
    decide +kernel
  rw [hnone] at hc
  cases hc

end BenchScript
