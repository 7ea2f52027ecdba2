import ClusterCapacity.Proofs.Selection.Addresses
import ClusterCapacity.Proofs.Selection.Filters
import ClusterCapacity.Proofs.Url.Form
import ClusterCapacity.Source.Master

/-!
# The query in the URL of a request

The choice of workers can be read back from the URL that a master is asked at
(`url_carries_selector`): the range, the facts and the addresses are the pairs of its query.  No
address has a comma, so the addresses are told apart although they are joined to one value.
-/

namespace ClusterCapacity

/-! ### Texts of URLs -/

namespace Url

/-- The query is what follows a question mark where there is no fragment. -/
theorem characters_of_query {url : Url} {query : List Char} (hquery : url.query = some query)
    (hfragment : url.fragment = none) :
    url.characters = url.frontText ++ url.path.text ++ '?' :: query := by
  rw [characters, hquery, hfragment]
  exact List.append_nil _

end Url

theorem Range.eq_of_queryName {range other : Range} (h : range.queryName = other.queryName) :
    range = other := by
  revert h
  cases range <;> cases other <;> decide

namespace Query

variable {master : Url}

/-- The URLs of all requests to a master are at one place and differ in the query. -/
theorem exists_url (hbase : ∃ segments, master.path = .segments segments) :
    ∃ place : Url, place.fragment = none ∧ ∀ query : Query,
      query.url master = .ok { place with query := some (Url.Form.encode query.pairs) } := by
  obtain ⟨segments, hpath⟩ := hbase
  have hresolve : ∃ path, master.resolve reportPath
      = .ok { master with path := path, query := none, fragment := none } := by
    rw [Url.resolve, hpath]
    exact ⟨_, rfl⟩
  obtain ⟨path, hresolve⟩ := hresolve
  refine ⟨{ master with path := path, query := none, fragment := none }, rfl, fun query => ?_⟩
  rw [url, hresolve]

/-- The last pair of a query tells the addresses, if none of them has a comma. -/
theorem addresses_eq_of_joined {addresses others : List String} {name : List Char}
    (h : (if addresses.isEmpty then [] else [(name, (Addresses.joined addresses).toList)])
      = if others.isEmpty then [] else [(name, (Addresses.joined others).toList)])
    (haddresses : ∀ address ∈ addresses, ',' ∉ address.toList)
    (hothers : ∀ address ∈ others, ',' ∉ address.toList) : addresses = others := by
  cases addresses with
  | nil =>
    cases others with
    | nil => rfl
    | cons first rest => nomatch h
  | cons first rest =>
    cases others with
    | nil => nomatch h
    | cons other others =>
      have hjoined : (Addresses.joined (first :: rest)).toList
          = (Addresses.joined (other :: others)).toList :=
        congrArg Prod.snd (List.cons.inj h).1
      rw [← Addresses.map_splitOn_joined (List.cons_ne_nil first rest) haddresses, hjoined,
        Addresses.map_splitOn_joined (List.cons_ne_nil other others) hothers]

/-- Queries whose addresses have no commas are told apart by their pairs. -/
theorem eq_of_pairs {query other : Query} (h : query.pairs = other.pairs)
    (hquery : ∀ address ∈ query.addresses, ',' ∉ address.toList)
    (hother : ∀ address ∈ other.addresses, ',' ∉ address.toList) :
    query.range = other.range ∧ query.addresses = other.addresses := by
  simp only [pairs, List.cons_append, List.nil_append, List.cons.injEq, Prod.mk.injEq, true_and,
    String.toList_inj] at h
  obtain ⟨hname, -, haddresses⟩ := h
  exact ⟨Range.eq_of_queryName hname, addresses_eq_of_joined haddresses hquery hother⟩

end Query

/-! ### Selectors -/

namespace Selector

variable {filters : List Filter} {selector : Selector}

/-- The addresses of a choice are ascending, and each can be an address. -/
theorem addresses_of_resolve (h : resolve filters = .ok selector) :
    selector.query.addresses.Pairwise (· < ·) ∧
      ∀ address ∈ selector.query.addresses, Addresses.IsAddress address := by
  rcases eq_all_or_ofFilter h with rfl | ⟨filter, rfl⟩
  · exact ⟨List.Pairwise.nil, by nofun⟩
  · cases filter with
    | live => exact ⟨List.Pairwise.nil, by nofun⟩
    | lost => exact ⟨List.Pairwise.nil, by nofun⟩
    | workers text =>
      exact ⟨Addresses.pairwise_ofList _, fun _ hmem => (Addresses.mem_parse_iff.mp hmem).1⟩

/-- A choice is known from its range and addresses. -/
theorem eq_of_query {other : Selector} (hrange : selector.query.range = other.query.range)
    (haddresses : selector.query.addresses = other.query.addresses) : selector = other := by
  cases selector <;> cases other <;> first
    | rfl
    | exact congrArg specified haddresses
    | nomatch hrange

end Selector

/-! ### Requests -/

/-- Let a master have a URL that others can be below, with any query and fragment.  The URL of the
request for what at most one filter chooses has no fragment, and the pairs of its query are the
range, the six facts and, if there are addresses, the addresses joined by commas.  The addresses are
those that the filter names, ascending and each once, and are had back by splitting their value at
the commas.  So two choices that give the same URL are the same. -/
theorem url_carries_selector {master : Url} (hbase : ∃ segments, master.path = .segments segments)
    {filters : List Filter} (hfilters : filters.length ≤ 1) :
    ∃ selector url, Selector.resolve filters = .ok selector ∧
      selector.query.url master = .ok url ∧
      let addresses := selector.query.addresses
      let joined := ",".intercalate addresses
      url.fragment = none ∧
      url.query.bind Url.Form.decode? = some
        ([("range".toList, selector.range.queryName.toList),
          ("fields".toList, ("ADDRESS,CAPACITY_BYTES,CAPACITY_BYTES_ON_TIERS,LAST_CONTACT_SEC," ++
            "USED_BYTES,USED_BYTES_ON_TIERS").toList)]
        ++ if addresses = [] then [] else [("addresses".toList, joined.toList)]) ∧
      (∀ text, filters = [.workers text] →
        ∀ name, name ∈ addresses ↔ Addresses.Named text name) ∧
      addresses.Pairwise (· < ·) ∧
      (addresses ≠ [] → (joined.toList.splitOn ',').map String.ofList = addresses) ∧
      ∀ {others : List Filter} {other : Selector} {otherUrl : Url},
        Selector.resolve others = .ok other → other.query.url master = .ok otherUrl →
        otherUrl.text = url.text → other = selector := by
  obtain ⟨selector, hselector⟩ := Selector.exists_resolve (Nat.lt_succ_of_le hfilters)
  obtain ⟨place, hfragment, hurl⟩ := Query.exists_url hbase
  obtain ⟨hascending, haddress⟩ := Selector.addresses_of_resolve hselector
  have hcomma : ∀ address ∈ selector.query.addresses, ',' ∉ address.toList :=
    fun address hmem => (haddress address hmem).no_comma
  refine ⟨selector, _, hselector, hurl _, hfragment, ?_, ?_, hascending, ?_, ?_⟩
  · have hdecode : Url.Form.decode? (Url.Form.encode selector.query.pairs)
        = some selector.query.pairs := Url.Form.decode?_encode _
    dsimp only [Option.bind_some]
    rw [hdecode, Query.pairs]
    simp only [List.isEmpty_iff]
    rfl
  · rintro text rfl name
    obtain rfl := Except.ok.inj hselector
    exact Addresses.mem_parse_iff
  · exact fun hne => Addresses.map_splitOn_joined hne hcomma
  · intro others other otherUrl hother hotherUrl htext
    obtain ⟨-, haddress'⟩ := Selector.addresses_of_resolve hother
    obtain rfl := Except.ok.inj ((hurl other.query).symm.trans hotherUrl)
    -- both texts are that of the place, a question mark and the query
    have hcharacters (query : Query) :
        ({ place with query := some (Url.Form.encode query.pairs) } : Url).characters
          = place.frontText ++ place.path.text ++ '?' :: Url.Form.encode query.pairs :=
      Url.characters_of_query rfl hfragment
    have hquery : Url.Form.encode other.query.pairs = Url.Form.encode selector.query.pairs := by
      have hsame := String.ofList_inj.mp htext
      rw [hcharacters, hcharacters] at hsame
      exact (List.cons.inj (List.append_cancel_left hsame)).2
    obtain ⟨hrange, haddresses⟩ := Query.eq_of_pairs (Url.Form.encode_inj hquery)
      (fun address hmem => (haddress' address hmem).no_comma) hcomma
    exact Selector.eq_of_query hrange haddresses

/-- Addresses that hold all the signs of a query, below a place with a query and a fragment. -/
theorem url_carries_selector_signs :
    let master : Url :=
      ⟨"http".toList, some { host := .name "m".toList }, .segments [[]], some ['q'], some ['f']⟩
    let filters : List Filter := [.workers " é=1&2 +%2C#?, a b,,a b"]
    (∃ segments, master.path = .segments segments) ∧ filters.length ≤ 1 ∧
      ∃ url, (Selector.specified ["a b", "é=1&2 +%2C#?"]).query.url master = .ok url ∧
        url.fragment = none ∧
        (url.query.bind Url.Form.decode?).map (List.map Prod.snd) = some ["SPECIFIED".toList,
          ("ADDRESS,CAPACITY_BYTES,CAPACITY_BYTES_ON_TIERS,LAST_CONTACT_SEC," ++
            "USED_BYTES,USED_BYTES_ON_TIERS").toList, "a b,é=1&2 +%2C#?".toList] := by
  intro master filters
  have hbase : ∃ segments, master.path = .segments segments := ⟨_, rfl⟩
  have hfilters : filters.length ≤ 1 := by decide
  obtain ⟨selector, url, hselector, hurl, hfragment, hpairs, -⟩ :=
    url_carries_selector hbase hfilters
  have hresolve : Selector.resolve filters = .ok (.specified ["a b", "é=1&2 +%2C#?"]) := by
    decide +kernel
  obtain rfl := Except.ok.inj (hresolve.symm.trans hselector)
  refine ⟨hbase, hfilters, url, hurl, hfragment, ?_⟩
  rw [hpairs]
  decide +kernel

end ClusterCapacity
