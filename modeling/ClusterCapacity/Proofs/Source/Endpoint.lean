import ClusterCapacity.Proofs.Url.Paths
import ClusterCapacity.Source.Master

/-!
# The place of the worker report

The report of a master is asked for in the folder that the URL of the master lies in: what follows
the last slash of this URL is replaced (`report_below_folder`).  So the report is below the URL of
the master itself only if this URL ends in a slash.
-/

namespace ClusterCapacity

namespace Url

/-- The text of a URL that others are below: a slash is added unless it ends in one. -/
def folderText (url : Url) : List Char :=
  if url.characters.getLast? = some '/' then url.characters else url.characters ++ ['/']

/-- A text is its own folder just if it ends in a slash. -/
theorem eq_folderText_iff {url : Url} {folder last : List Char}
    (h : url.characters = folder ++ last) (hfolder : folder.getLast? = some '/')
    (hlast : '/' ∉ last) : folder = url.folderText ↔ url.characters.getLast? = some '/' := by
  rw [folderText, h]
  by_cases hnil : last = []
  · subst hnil
    rw [List.append_nil, if_pos hfolder]
    exact iff_of_true rfl hfolder
  · have hends : (folder ++ last).getLast? ≠ some '/' := by
      rw [List.getLast?_append_of_ne_nil folder hnil]
      exact fun hslash => hlast (List.mem_of_getLast? hslash)
    rw [if_neg hends]
    -- the folder is shorter than the whole text, and a slash makes that longer still
    refine iff_of_false (fun heq => ?_) hends
    have hlength : folder.length = (folder ++ last ++ ['/']).length := congrArg List.length heq
    simp only [List.length_append, List.length_singleton] at hlength
    omega

/-! ### The path of the report -/

theorem isPlain_reportPath (kind : Kind) :
    ∀ segment ∈ splitSegments kind reportPath, IsPlain segment := by
  unfold IsPlain
  cases kind <;> decide

theorem slashed_reportPath (kind : Kind) :
    slashed (splitSegments kind reportPath) = '/' :: reportPath := by
  cases kind <;> decide

end Url

/-! ### Requests -/

/-- Let a text be read as a web address without query and fragment.  What follows the last slash of
this address is replaced by the path of the worker report, so the place that is asked is the address
with the path appended, after a slash if there is none, just if the address ends in a slash. -/
theorem report_below_folder {text : String} {master : Url} (hmaster : Url.parse text = .ok master)
    (hweb : master.kind = .web) (hquery : master.query = none) (hfragment : master.fragment = none)
    (query : Query) :
    ∃ url folder last, query.url master = .ok url ∧
      master.characters = folder ++ last ∧ folder.getLast? = some '/' ∧ '/' ∉ last ∧
      url.query = some (Url.Form.encode query.pairs) ∧
      { url with query := none }.characters = folder ++ reportPath ∧
      ({ url with query := none }.characters = master.folderText ++ reportPath ↔
        master.characters.getLast? = some '/') := by
  obtain ⟨folder, last, hsplit, hfolder, hlast, hresolve⟩ :=
    Url.exists_folder hmaster hweb hquery hfragment
  obtain ⟨place, hplace, hbare, htext⟩ :=
    hresolve (Url.isPlain_reportPath master.kind) (Url.slashed_reportPath master.kind)
  have hwithout : ({ place with query := none } : Url).characters = folder ++ reportPath := by
    rw [← hbare]
    exact htext
  refine ⟨{ place with query := some (Url.Form.encode query.pairs) }, folder, last, ?_, hsplit,
    hfolder, hlast, rfl, hwithout, ?_⟩
  · rw [Query.url, hplace]
  · show ({ place with query := none } : Url).characters = _ ↔ _
    rw [hwithout, List.append_left_inj]
    exact Url.eq_folderText_iff hsplit hfolder hlast

/-- A master behind a gateway, with the slash that keeps the name of the gateway. -/
theorem report_below_folder_gateway :
    ∃ master, Url.parse "http://master:8080/a/base/" = .ok master ∧ master.kind = .web ∧
      master.query = none ∧ master.fragment = none ∧
      ∃ url, Selector.all.query.url master = .ok url ∧
        { url with query := none }.text
          = "http://master:8080/a/base/api/v1/master/worker_report" := by
  have hmaster : Url.parse "http://master:8080/a/base/" = .ok ⟨"http".toList,
      some { host := .name "master".toList, port := some 8080 },
      .segments ["a".toList, "base".toList, []], none, none⟩ := rfl
  obtain ⟨url, folder, last, hurl, -, -, -, -, -, hbelow⟩ :=
    report_below_folder hmaster (by decide) rfl rfl Selector.all.query
  refine ⟨_, hmaster, by decide, rfl, rfl, url, hurl, ?_⟩
  rw [Url.text, hbelow.mpr (by decide +kernel)]
  decide +kernel

/-- Without the slash the last segment of the master's URL is dropped. -/
theorem report_drops_base :
    ∃ master, Url.parse "http://master/base" = .ok master ∧ master.kind = .web ∧
      master.query = none ∧ master.fragment = none ∧
      ∃ url, Selector.all.query.url master = .ok url ∧
        { url with query := none }.text = "http://master/api/v1/master/worker_report" ∧
        { url with query := none }.characters ≠ master.folderText ++ reportPath := by
  refine ⟨⟨"http".toList, some { host := .name "master".toList }, .segments ["base".toList], none,
    none⟩, rfl, by decide, rfl, rfl, _, rfl, ?_, ?_⟩
  · decide +kernel
  · decide +kernel

end ClusterCapacity
