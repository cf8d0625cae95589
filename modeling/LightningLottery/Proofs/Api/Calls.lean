/-
  Where the calls of a client go.

  * `ServerCall`: the operations of the server, each with its arguments.
  * `Url.IsBelow`: a page in the folder of the API below a server.
  * `ApiClient.urlOf_isPageOf`: an endpoint is a page in the folder of the API.
  * `Url.query_told`: a query starts at the first question mark.
  * `ServerCall.exists_urlOf`: the page of a call, with the arguments for its query.
  * `ServerCall.eq_of_text`: the written form of a URL tells the call.
  * `ServerCall.goes_below_server`: where calls go, and where the event stream is.
-/
import LightningLottery.Config.Basic
import LightningLottery.Proofs.Api.Aborting
import LightningLottery.Proofs.Text.Radix
import LightningLottery.Proofs.Url.Segments

namespace LightningLottery

/-! ## Calls -/

/-- A call of an operation of the server, with its arguments. -/
inductive ServerCall where
  | bets (height : UInt32) (offset limit : UInt64) (reverse : Bool)
  | heights (offset limit : UInt64) (reverse : Bool)
  | lottery
  | invoice (amount : UInt64)
  | prizes
  | winners (height : UInt32)
  | winnersHistory (first last : UInt32)
  | withdrawalOffer (publicKey signature : String)
  | withdraw (signature request publicKey : String) (fee : UInt64)
  | lightningAddress
  | setLightningAddress (address : String)

namespace ServerCall

/-- What the server replies with. -/
def Reply : ServerCall → Type
  | bets .. => BetsReply
  | heights .. => HeightsReply
  | lottery => LotteryReply
  | invoice .. => InvoiceReply
  | prizes => PrizesReply
  | winners .. | winnersHistory .. => WinnersReply
  | withdrawalOffer .. => WithdrawalOffer
  | withdraw .. => WithdrawReply
  | lightningAddress => AddressReply
  | setLightningAddress .. => AddressSetReply

/-- What a call asks of the server. -/
def endpoint : (call : ServerCall) → Endpoint call.Reply
  | bets height offset limit reverse => .bets height offset limit reverse
  | heights offset limit reverse => .heights offset limit reverse
  | lottery => .lottery
  | invoice amount => .invoice amount
  | prizes => .prizes
  | winners height => .winners height
  | winnersHistory first last => .winnersHistory first last
  | withdrawalOffer publicKey signature => .withdrawalOffer publicKey signature
  | withdraw signature request publicKey fee => .withdraw signature request publicKey fee
  | lightningAddress => .lightningAddress
  | setLightningAddress address => .setLightningAddress address

/-- The page of an operation in the folder of the API. -/
def page : ServerCall → String
  | bets .. => "bets"
  | heights .. => "heights"
  | lottery => "lottery"
  | invoice .. => "invoice"
  | prizes => "prizes"
  | winners .. => "winners"
  | winnersHistory .. => "winners/history"
  | withdrawalOffer .. => "lightning/lnurlw"
  | withdraw .. => "withdraw"
  | lightningAddress | setLightningAddress .. => "lightning/address"

/-- The parameters of an operation in their order, with the values that a call gives them. -/
def arguments : ServerCall → List Form.Pair
  | bets height offset limit reverse =>
    [("height", decimalText height.toNat), ("offset", decimalText offset.toNat),
     ("limit", decimalText limit.toNat), ("reverse", if reverse then "true" else "false")]
  | heights offset limit reverse =>
    [("offset", decimalText offset.toNat), ("limit", decimalText limit.toNat),
     ("reverse", if reverse then "true" else "false")]
  | invoice amount => [("amount", decimalText amount.toNat)]
  | winners height => [("height", decimalText height.toNat)]
  | winnersHistory first last =>
    [("from", decimalText first.toNat), ("to", decimalText last.toNat)]
  | withdrawalOffer publicKey signature => [("pubkey", publicKey), ("signature", signature)]
  | withdraw signature request publicKey fee =>
    [("k1", signature), ("pr", request), ("pubkey", publicKey), ("fee", decimalText fee.toNat)]
  | setLightningAddress address => [("address", address)]
  | lottery | prizes | lightningAddress => []

theorem endpoint_parameters (call : ServerCall) : call.endpoint.parameters = call.arguments := by
  cases call <;> rfl

theorem text_endpoint_page (call : ServerCall) :
    (UrlPath.rooted ("api" :: call.endpoint.page)).text = "/api/" ++ call.page := by
  cases call <;> rfl

theorem query_notMem_page (call : ServerCall) : '?' ∉ call.page.toList := by
  cases call <;> simp [page]

theorem flagText_inj {a b : Bool} :
    (if a then "true" else "false" : String) = (if b then "true" else "false") ↔ a = b := by
  cases a <;> cases b <;> decide

/-- **A call is determined by its page and its arguments.** -/
theorem eq_of_arguments {call other : ServerCall} (hpage : call.page = other.page)
    (harguments : call.arguments = other.arguments) : call = other := by
  -- The pages differ, but for the two calls about the address, of which one has no arguments.
  cases call <;> cases other <;>
    simp_all [page, arguments, decimalText_inj, flagText_inj, UInt32.toNat_inj, UInt64.toNat_inj]

end ServerCall

/-! ## Pages below a server -/

namespace ClientCourse

theorem next_base (c : ClientCourse) (move : ClientMove) :
    (c.next move).client.base = c.client.base := by
  cases move with
  | sent endpoint =>
    simp only [next]
    split <;> rfl
  | replied | polled | aborted | named => rfl

theorem run_base (c : ClientCourse) (moves : List ClientMove) :
    (c.run moves).client.base = c.client.base := by
  induction moves generalizing c with
  | nil => rfl
  | cons move moves ih => exact (ih (c.next move)).trans (c.next_base move)

end ClientCourse

/-- An endpoint is a page in the folder of the API. -/
theorem ApiClient.urlOf_isPageOf {α : Type} {client : ApiClient} {apiUrl url : Url}
    (hbase : client.base = apiUrl.apiBase) {endpoint : Endpoint α} {page : String}
    (hpage : endpoint.page = [page]) (h : client.urlOf endpoint = .ok url) :
    url.IsPageOf client.base page := by
  simp only [urlOf, hbase, hpage] at h
  split at h
  · next child hchild =>
    cases h
    have hpage := Url.isPageOf_child? hchild
    rw [hbase, Url.withQuery]
    split
    · exact hpage
    · exact ⟨hpage.scheme_eq, hpage.authority_eq, hpage.path_eq, hpage.fragment_eq⟩
  · cases h

/-- A page in the folder of the API below a server: its path is that of the server without slashes
    at the end, then the folder and the page. -/
structure Url.IsBelow (url server : Url) (page : String) : Prop where
  scheme_eq : url.scheme = server.scheme
  authority_eq : url.authority = server.authority
  path_eq : url.path.text = String.ofList (dropWhileRight (· == '/') server.path.text.toList) ++
    "/api/" ++ page
  fragment_eq : url.fragment = none

/-- The address of a server up to the folder of the API, as it is written. -/
def Url.folderText (server : Url) : String :=
  server.scheme ++ ":" ++ leadText server.authority false ++
    String.ofList (dropWhileRight (· == '/') server.path.text.toList) ++ "/api/"

/-- The written form of a page below a server with an authority. -/
theorem Url.IsBelow.text_eq {url server : Url} {page : String} (h : url.IsBelow server page)
    (hauthority : ∃ authority, server.authority = some authority) :
    url.text = server.folderText ++ (page ++ optionalText "?" url.query) := by
  obtain ⟨authority, hauthority⟩ := hauthority
  rw [text, folderText, h.scheme_eq, h.authority_eq, h.path_eq, h.fragment_eq, hauthority]
  simp only [leadText, optionalText, String.append_assoc, String.append_empty]

/-- The path of a page below a server holds no delimiter that is not in the page: those of the
    server are encoded. -/
theorem Url.IsBelow.notMem_path {given : String} {url server : Url} {page : String}
    (h : url.IsBelow server page) (hparse : Url.parse given = .ok server)
    (hhttp : server.isHttp = true) {sign : Char} (hsign : sign ∈ ['?', '#'])
    (hpage : sign ∉ page.toList) : sign ∉ url.path.text.toList := by
  have hslash : sign ≠ '/' := by
    rcases List.mem_pair.1 hsign with rfl | rfl <;> decide
  have hfolder : sign ∉ "/api/".toList := by
    rcases List.mem_pair.1 hsign with rfl | rfl <;> decide
  obtain ⟨-, segments, hpath, hfree⟩ := Url.rooted_of_parse hparse hhttp
  rw [h.path_eq, String.toList_append, String.toList_append, String.toList_ofList, hpath,
    Url.toList_text_rooted, dropWhileRight_eq]
  simp only [List.mem_append, not_or]
  refine ⟨⟨fun hm => ?_, hfolder⟩, hpage⟩
  obtain ⟨segment, hsegment, hm⟩ := List.mem_flatMap.1 ((List.rdropWhile_prefix _ _).subset hm)
  exact hfree segment hsegment sign (List.mem_cons_of_mem _ hsign)
    ((List.mem_cons.1 hm).resolve_left hslash)

theorem Url.IsBelow.rooted {given : String} {url server : Url} {page : String}
    (h : url.IsBelow server page) (hparse : Url.parse given = .ok server)
    (hhttp : server.isHttp = true) : url.path.text.toList.head? = some '/' := by
  obtain ⟨-, segments, hpath, -⟩ := Url.rooted_of_parse hparse hhttp
  rw [h.path_eq, String.toList_append, String.toList_append, String.toList_ofList, hpath,
    Url.toList_text_rooted, dropWhileRight_eq, List.append_assoc]
  -- what is left of the path of the server is nothing, or starts as that path does
  cases hfront : (segments.flatMap fun s => '/' :: s.toList).rdropWhile (· == '/') with
  | nil => rfl
  | cons c front =>
    obtain ⟨rest, hrest⟩ := List.rdropWhile_prefix (fun c : Char => c == '/')
      (segments.flatMap fun s => '/' :: s.toList)
    rw [hfront] at hrest
    cases segments with
    | nil => cases hrest
    | cons s segments =>
      rw [List.flatMap_cons, List.cons_append, List.cons_append] at hrest
      rw [List.head_eq_of_cons_eq hrest]
      rfl

/-- **The query starts behind the first question mark** of the text. -/
theorem Url.query_told {page other : String} {query otherQuery : Option String}
    (hpage : '?' ∉ page.toList) (hother : '?' ∉ other.toList)
    (h : page ++ optionalText "?" query = other ++ optionalText "?" otherQuery) :
    page = other ∧ query = otherQuery := by
  have hcut : ∀ {page : String} {query : Option String}, '?' ∉ page.toList →
      splitFirst? '?' (page ++ optionalText "?" query).toList =
        query.map fun query => (page.toList, query.toList) := by
    intro page query hpage
    cases query with
    | none =>
      rw [optionalText, String.append_empty]
      exact splitFirst?_eq_none_iff.2 hpage
    | some query =>
      refine splitFirst?_eq_some_iff.2 ⟨?_, hpage⟩
      rw [optionalText, String.toList_append, String.toList_append]
      rfl
  have hsame := congrArg (fun s : String => splitFirst? '?' s.toList) h
  simp only [hcut hpage, hcut hother] at hsame
  cases query <;> cases otherQuery
  case none.none => exact ⟨String.append_left_inj _ |>.1 h, rfl⟩
  case some.some query otherQuery =>
    simp only [Option.map_some, Option.some.injEq, Prod.mk.injEq, String.toList_inj] at hsame
    exact ⟨hsame.1, congrArg some hsame.2⟩
  all_goals cases hsame

namespace ServerCall

/-- The query of a call: none if there are no arguments. -/
def query (call : ServerCall) : Option String :=
  if call.arguments.isEmpty then none else some (String.ofList (Form.write call.arguments))

theorem read_query (call : ServerCall) :
    Form.read (call.query.getD "").toList = call.arguments := by
  unfold query
  split
  · next hempty =>
    rw [List.isEmpty_iff.1 hempty]
    rfl
  · rw [Option.getD_some, String.toList_ofList, Form.read_write]

theorem query_eq_none_iff {call : ServerCall} : call.query = none ↔ call.arguments = [] := by
  rw [← List.isEmpty_iff, query]
  split
  · next h => exact iff_of_true rfl h
  · next h => exact iff_of_false nofun h

theorem mem_query {call : ServerCall} {c : Char} (h : c ∈ (call.query.getD "").toList) :
    Form.isPlain c = true ∨ c ∈ ['%', '+', '=', '&'] := by
  unfold query at h
  split at h
  · exact absurd h List.not_mem_nil
  · rw [Option.getD_some, String.toList_ofList] at h
    exact Form.mem_write h

theorem arguments_eq_of_query {call other : ServerCall} (h : call.query = other.query) :
    call.arguments = other.arguments := by
  rw [← read_query call, h, read_query]

variable {given : String} {apiUrl : Url}

/-- **The URL of a call is its page below the server, with the arguments as its query.** -/
theorem exists_urlOf (hparse : Url.parse given = .ok apiUrl) (hhttp : apiUrl.isHttp = true)
    {client : ApiClient} (hbase : client.base = apiUrl.apiBase) (call : ServerCall) :
    ∃ url, client.urlOf call.endpoint = .ok url ∧ url.IsBelow apiUrl call.page ∧
      url.query = call.query := by
  obtain ⟨child, hchild, hscheme, hauthority, hquery, hfragment, hpath⟩ :=
    Url.exists_child?_apiBase hparse hhttp call.endpoint.page
  refine ⟨child.withQuery call.arguments, ?_, ?_, ?_⟩
  · simp only [ApiClient.urlOf, hbase, hchild, endpoint_parameters]
  · rw [text_endpoint_page, ← String.append_assoc] at hpath
    unfold Url.withQuery
    split <;> exact ⟨hscheme, hauthority, hpath, hfragment⟩
  · unfold Url.withQuery query
    split
    · exact hquery
    · rfl

/-- **A call is determined by the text of its URL.** -/
theorem eq_of_text (hparse : Url.parse given = .ok apiUrl) (hhttp : apiUrl.isHttp = true)
    {client : ApiClient} (hbase : client.base = apiUrl.apiBase) {call other : ServerCall}
    {url otherUrl : Url} (hurl : client.urlOf call.endpoint = .ok url)
    (hother : client.urlOf other.endpoint = .ok otherUrl) (h : url.text = otherUrl.text) :
    call = other := by
  obtain ⟨_, hurl', hbelow, hquery⟩ := exists_urlOf hparse hhttp hbase call
  cases hurl.symm.trans hurl'
  obtain ⟨_, hother', hbelow', hquery'⟩ := exists_urlOf hparse hhttp hbase other
  cases hother.symm.trans hother'
  obtain ⟨hauthority, -⟩ := Url.rooted_of_parse hparse hhttp
  rw [hbelow.text_eq hauthority, hbelow'.text_eq hauthority, hquery, hquery'] at h
  obtain ⟨hpage, hsame⟩ := Url.query_told (query_notMem_page call) (query_notMem_page other)
    (String.append_right_inj _ |>.1 h)
  exact eq_of_arguments hpage (arguments_eq_of_query hsame)

/-- **Every call goes to its page below the server** (`Url.IsBelow`), for a client of a URL over
    HTTP after all moves. Its query is there exactly if the call has arguments, is read as these,
    and holds no character that would end it. Different calls have different texts, and the event
    stream is below the same server. -/
theorem goes_below_server (hparse : Url.parse given = .ok apiUrl) (hhttp : apiUrl.isHttp = true)
    (publicKey : String) (userAgent : Option String) (moves : List ClientMove) :
    let client := ((ClientCourse.start apiUrl publicKey userAgent).run moves).client
    (∀ call : ServerCall, ∃ url, client.urlOf call.endpoint = .ok url ∧
      (∀ flight, client.launch call.endpoint = .ok flight → flight.request.url = url) ∧
      url.IsBelow apiUrl call.page ∧ (url.query = none ↔ call.arguments = []) ∧
      Form.read (url.query.getD "").toList = call.arguments ∧
      ∀ c ∈ (url.query.getD "").toList, Form.isPlain c = true ∨ c ∈ ['%', '+', '=', '&']) ∧
    (∀ (call other : ServerCall) (url otherUrl : Url), client.urlOf call.endpoint = .ok url →
      client.urlOf other.endpoint = .ok otherUrl → call ≠ other → url.text ≠ otherUrl.text) ∧
    ∀ config : Config, config.apiUrl = apiUrl → ∃ url, config.eventsUrl = .ok url ∧
      url.IsBelow apiUrl "events" ∧ url.query = some "stream=events" := by
  intro client
  have hbase : client.base = apiUrl.apiBase := ClientCourse.run_base _ moves
  refine ⟨fun call => ?_, fun call other url otherUrl hurl hother hne htext => ?_,
    fun config hconfig => ?_⟩
  · obtain ⟨url, hurl, hbelow, hquery⟩ := exists_urlOf hparse hhttp hbase call
    refine ⟨url, hurl, fun flight hflight => ?_, hbelow, ?_, ?_, fun c hc => ?_⟩
    · obtain ⟨-, url', hurl', rfl⟩ := ApiClient.launch_eq_ok_iff.1 hflight
      exact (Except.ok.inj (hurl.symm.trans hurl')).symm
    · rw [hquery, query_eq_none_iff]
    · rw [hquery, read_query]
    · exact mem_query (hquery ▸ hc)
  · exact hne (eq_of_text hparse hhttp hbase hurl hother htext)
  · obtain ⟨child, hchild, hscheme, hauthority, -, hfragment, hpath⟩ :=
      Url.exists_child?_apiBase hparse hhttp ["events"]
    refine ⟨child.withQuery [("stream", "events")], ?_, ⟨hscheme, hauthority, ?_, hfragment⟩, ?_⟩
    · rw [Config.eventsUrl, Config.apiBase, hconfig, hchild]
      rfl
    · rw [String.append_assoc]
      exact hpath
    · rfl

/-- A server in a folder, with a query and a fragment of its own. -/
def queriedServer : Url :=
  ⟨"https", some ⟨"", none, .domain "localhost", some 8443⟩, false, .rooted ["lottery", "", ""],
    some "address=x", some "top"⟩

/-- An address full of delimiters stays within its parameter. -/
theorem goes_below_server_signs :
    let client := ((ClientCourse.start queriedServer "" none).run [.aborted]).client
    let address := "a&address=b #?/+%26@é.ü"
    Url.parse "https://localhost:8443/lottery//?address=x#top" = .ok queriedServer ∧
      queriedServer.isHttp = true ∧
      ∃ url, client.urlOf (setLightningAddress address).endpoint = .ok url ∧
        url.path.text = "/lottery/api/lightning/address" ∧
        Form.read (url.query.getD "").toList = [("address", address)] ∧ url.fragment = none := by
  intro client address
  have hparse : Url.parse "https://localhost:8443/lottery//?address=x#top" = .ok queriedServer := by
    decide +kernel
  have hhttp : queriedServer.isHttp = true := by decide
  obtain ⟨hcalls, -, -⟩ := goes_below_server hparse hhttp "" none [.aborted]
  obtain ⟨url, hurl, -, hbelow, -, hread, -⟩ := hcalls (setLightningAddress address)
  refine ⟨hparse, hhttp, url, hurl, ?_, hread, hbelow.fragment_eq⟩
  rw [hbelow.path_eq]
  decide +kernel

end ServerCall
end LightningLottery
