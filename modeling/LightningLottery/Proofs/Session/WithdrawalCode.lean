/-
  The code for a withdrawal leads back to the request that it stands for.

  * `Url.Divides`: the parts of a text, divided where the delimiters of a URL stand.
  * `IsWithdrawalLink`: a link to the page where a wallet starts a withdrawal.
  * `Lnurl.IsCodeOf`: a code that leads back to a text, unless the text is too long.
  * `Session.withdrawalCode_eq`: the code of a session is the LNURL of such a link.
  * `SessionCourse.withdrawalCode_leads_back`: so the code leads to the page for withdrawals.
-/
import LightningLottery.Proofs.Api.Calls
import LightningLottery.Proofs.Identity.Canonical
import LightningLottery.Proofs.Lnurl
import LightningLottery.Proofs.Session.Naming
import LightningLottery.Proofs.Url.Authority

namespace LightningLottery

/-! ## Links -/

/-- A text divided into scheme, authority, path and query: the scheme ends at the first colon, the
    authority at the first slash behind `://`, and the path at the first question mark. -/
structure Url.Divides (text scheme authority path query : String) : Prop where
  eq : text = scheme ++ "://" ++ authority ++ path ++ "?" ++ query
  scheme : ':' ∉ scheme.toList
  authority : authority.toList.Disjoint delimiters
  rooted : path.toList.head? = some '/'
  path : ∀ sign ∈ ['?', '#'], sign ∉ path.toList
  query : '#' ∉ query.toList

/-- A text is a link to the page for withdrawals of a server, for the owner of a public key: scheme
    and authority of the server, its path without slashes at the end and then the page, and a query
    with the key and a signature. -/
def IsWithdrawalLink (text : String) (server : Url) (publicKey signature : String) : Prop :=
  ∃ authority path query, server.authority = some authority ∧
    Url.Divides text server.scheme authority.text path query ∧
    path = String.ofList (dropWhileRight (· == '/') server.path.text.toList) ++
      "/api/lightning/lnurlw" ∧
    Form.read query.toList = [("pubkey", publicKey), ("signature", signature)]

/-- A page below a server at a URL over HTTP divides into the parts of its URL. -/
theorem Url.IsBelow.divides {given : String} {url server : Url} {page query : String}
    (h : url.IsBelow server page) (hparse : Url.parse given = .ok server)
    (hhttp : server.isHttp = true) (hpage : ∀ sign ∈ ['?', '#'], sign ∉ page.toList)
    (hquery : url.query = some query) (hfree : '#' ∉ query.toList) :
    ∃ authority, server.authority = some authority ∧
      Url.Divides url.text server.scheme authority.text url.path.text query := by
  obtain ⟨authority, hauthority, hdisjoint⟩ := Url.authority_of_parse hparse hhttp
  refine ⟨authority, hauthority, ?_, ?_, hdisjoint, h.rooted hparse hhttp, fun sign hsign =>
    h.notMem_path hparse hhttp hsign (hpage sign hsign), hfree⟩
  · rw [Url.text, h.scheme_eq, h.authority_eq, hauthority, hquery, h.fragment_eq]
    simp only [Url.leadText, Url.optionalText, String.append_assoc, String.append_empty]
    rfl
  · rw [Url.isHttp, Bool.or_eq_true, beq_iff_eq, beq_iff_eq] at hhttp
    rcases hhttp with hscheme | hscheme <;> rw [hscheme] <;> decide

/-- With a server at a URL over HTTP, `ApiClient.withdrawalUrl` is a withdrawal link. -/
theorem ApiClient.exists_withdrawalUrl {given : String} {apiUrl : Url}
    (hparse : Url.parse given = .ok apiUrl) (hhttp : apiUrl.isHttp = true) {client : ApiClient}
    (hbase : client.base = apiUrl.apiBase) (publicKey signature : String) :
    ∃ url, client.withdrawalUrl publicKey signature = .ok url ∧
      url.IsBelow apiUrl "lightning/lnurlw" ∧
      IsWithdrawalLink url.text apiUrl publicKey signature := by
  obtain ⟨url, hurl, hpage, hquery⟩ :=
    ServerCall.exists_urlOf hparse hhttp hbase (.withdrawalOffer publicKey signature)
  have hbelow : url.IsBelow apiUrl "lightning/lnurlw" := hpage
  let query := String.ofList (Form.write [("pubkey", publicKey), ("signature", signature)])
  have hsome : url.query = some query := hquery
  have hpath : url.path.text =
      String.ofList (dropWhileRight (· == '/') apiUrl.path.text.toList) ++
        "/api/lightning/lnurlw" := by
    rw [hbelow.path_eq, String.append_assoc]
    rfl
  have hnumber : '#' ∉ query.toList := by
    intro hm
    rw [String.toList_ofList] at hm
    rcases Form.mem_write hm with hplain | hsign
    · exact absurd hplain (by decide)
    · exact absurd hsign (by decide)
  obtain ⟨authority, hauthority, hdivides⟩ := hbelow.divides hparse hhttp
    (List.forall_iff_forall_mem.1 ⟨by decide, by decide⟩) hsome hnumber
  refine ⟨url, hurl, hbelow, authority, url.path.text, query, hauthority, hdivides, hpath, ?_⟩
  rw [String.toList_ofList, Form.read_write]

/-! ## Codes -/

/-- What there is of a code for a text: one exactly if the text takes at most 631 bytes, which leads
    back to the text in whichever form it is shown. -/
structure Lnurl.IsCodeOf (code : Except Error String) (text : String) : Prop where
  exists_iff : (∃ shown, code = .ok shown) ↔ text.utf8ByteSize ≤ 631
  tooLong : 631 < text.utf8ByteSize → code = .error (.validation (.urlTooLong
    (Bech32.encodedLength Lnurl.hrp (utf8 text)) Lnurl.maxLength))
  leadsBack : ∀ written, code = .ok written → ∀ shown ∈ [written, asciiUpper written],
    ∀ scheme ∈ ["", "lightning:", "LIGHTNING:"], ∀ front back, IsBlanks front → IsBlanks back →
      Lnurl.decode (front ++ (scheme ++ shown) ++ back) = .ok text

theorem Lnurl.isCodeOf_encode (text : String) : Lnurl.IsCodeOf (Lnurl.encode text) text :=
  ⟨Lnurl.exists_encode_iff, Lnurl.encode_too_long, fun _ => Lnurl.decode_shown⟩

theorem Session.withdrawalCode_eq {Tag : Type} {s : Session Tag} {signature : String} {url : Url}
    (hsignature : s.identity.signature = .ok signature)
    (hurl : s.api.withdrawalUrl s.identity.publicKey signature = .ok url) :
    s.withdrawalCode = Lnurl.encode url.text := by
  simp only [withdrawalCode, hsignature, hurl, bind, Except.bind]

namespace SessionCourse

variable {Tag : Type} [DecidableEq Tag]

/-- **`Session.withdrawalCode` leads back to the withdrawal link**: for a server at a URL over HTTP
    and an identity that passes the check, it is the LNURL of the page for withdrawals, with the
    public key and a signature that `verifyOwnership` accepts, if `Ed25519` accepts its own
    signatures. -/
theorem withdrawalCode_leads_back {given : String} {apiUrl : Url}
    (hparse : Url.parse given = .ok apiUrl) (hhttp : apiUrl.isHttp = true) (config : Config)
    (owner : Identity) (publicKey : String) (userAgent : Option String)
    (moves : List (SessionMove Tag)) :
    let s := ((start config owner (.create apiUrl publicKey userAgent)).run moves).session
    s.identity.check = .ok () →
    (∀ secret, decodeHexKey s.identity.privateKey = .ok secret →
      Ed25519.acceptsOwn secret = true) →
    ∃ signature url,
      s.identity.signature = .ok signature ∧
      s.api.withdrawalUrl s.identity.publicKey signature = .ok url ∧
      url.IsBelow apiUrl "lightning/lnurlw" ∧
      Lnurl.IsCodeOf s.withdrawalCode url.text ∧
      IsWithdrawalLink url.text apiUrl s.identity.publicKey signature ∧
      verifyOwnership s.identity.publicKey signature = .ok () := by
  intro s hcheck haccepts
  have hbase : s.api.base = apiUrl.apiBase := run_base _ moves
  obtain ⟨signature, hsignature, hverify⟩ := Identity.verifyOwnership_signature hcheck haccepts
  obtain ⟨url, hurl, hbelow, hlink⟩ :=
    ApiClient.exists_withdrawalUrl hparse hhttp hbase s.identity.publicKey signature
  refine ⟨signature, url, hsignature, hurl, hbelow, ?_, hlink, hverify⟩
  rw [s.withdrawalCode_eq hsignature hurl]
  exact Lnurl.isCodeOf_encode url.text

/-- A server in a folder. -/
def folderServer : Url :=
  ⟨"https", some ⟨"", none, .domain "localhost", some 8443⟩, false, .rooted ["lottery", "", ""],
    none, none⟩

/-- The code of a closed session, in capital letters, leads to the page in the folder of the server.
    -/
theorem withdrawalCode_leads_back_folder :
    let s := ((start WithdrawalCourse.mainnetConfig (.ofSecret WithdrawalCourse.oneSecret)
      (.create folderServer "" none) : SessionCourse Unit).run [.closed]).session
    Url.parse "https://localhost:8443/lottery//" = .ok folderServer ∧
      folderServer.isHttp = true ∧ s.identity.check = .ok () ∧
      Ed25519.acceptsOwn WithdrawalCourse.oneSecret = true ∧
      ∃ (code query signature : String) (url : Url), s.withdrawalCode = .ok code ∧
        Lnurl.decode (" " ++ ("lightning:" ++ asciiUpper code) ++ "") = .ok url.text ∧
        url.text = "https://localhost:8443/lottery/api/lightning/lnurlw?" ++ query ∧
        Form.read query.toList = [("pubkey", s.identity.publicKey), ("signature", signature)] ∧
        Url.parse url.text = .ok url := by
  intro s
  have hparse : Url.parse "https://localhost:8443/lottery//" = .ok folderServer := by
    decide +kernel
  have hhttp : folderServer.isHttp = true := by decide
  have hlength : WithdrawalCourse.oneSecret.length = 32 := List.length_replicate
  have hcheck : s.identity.check = .ok () := Identity.check_ofSecret hlength
  have hkey : decodeHexKey s.identity.privateKey = .ok WithdrawalCourse.oneSecret :=
    (Identity.keys_ofSecret hlength).1
  have haccepts : Ed25519.acceptsOwn WithdrawalCourse.oneSecret = true := by decide +kernel
  obtain ⟨signature, url, hsignature, hurl, -, hcode, hlink, -⟩ :=
    @withdrawalCode_leads_back Unit _ _ _ hparse hhttp WithdrawalCourse.mainnetConfig
      (.ofSecret WithdrawalCourse.oneSecret) "" none [.closed] hcheck fun secret hsecret => by
        cases hkey.symm.trans hsecret
        exact haccepts
  have hread : (s.identity.signature >>= s.api.withdrawalUrl s.identity.publicKey).toOption.all
      (fun url => url.text.utf8ByteSize ≤ 631 && Url.parse url.text = .ok url) = true := by
    decide +kernel
  rw [bind_eq_ok_iff.2 ⟨signature, hsignature, hurl⟩] at hread
  obtain ⟨hfits, hparsed⟩ := (Bool.and_eq_true _ _).mp hread
  obtain ⟨code, hsome⟩ := hcode.exists_iff.2 (of_decide_eq_true hfits)
  obtain ⟨authority, path, query, hauthority, hdivides, hpath, hquery⟩ := hlink
  refine ⟨hparse, hhttp, hcheck, haccepts, code, query, signature, url, hsome, ?_, ?_, hquery,
    of_decide_eq_true hparsed⟩
  · exact hcode.leadsBack code hsome _ (by simp) "lightning:" (by simp) " " ""
      (by simp [IsBlanks, isBlank]) (by simp [IsBlanks])
  · have hfront : folderServer.scheme ++ "://" ++ authority.text ++ (path ++ "?") =
        "https://localhost:8443/lottery/api/lightning/lnurlw?" := by
      rw [hpath, ← Option.some.inj hauthority]
      decide +kernel
    rw [hdivides.eq, ← hfront]
    simp only [String.append_assoc]

end SessionCourse
end LightningLottery
