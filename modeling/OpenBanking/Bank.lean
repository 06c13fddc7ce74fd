import OpenBanking.Json.Choice

/-!
# Banks

What is known of banks, and where a list of banks was cut into pages.
-/

namespace OpenBanking

open Json

/-- Where the accounts of a bank are linked. -/
structure BankInfo where
  /-- Where linking begins. -/
  linkingUri : String := ""
  /-- What the address of its end looks like. -/
  redirectUriRegex : String := ""
  /-- Where the bank begins it. -/
  bankLinkingUri : String := ""
  /-- Realms of the bank. -/
  realm : List String := []
deriving DecidableEq

namespace BankInfo

/-- All fields at their defaults. -/
instance : Inhabited BankInfo := ⟨{}⟩

/-- Members of the JSON object. -/
def fields : Fields (String × String × String × List String × Unit) :=
  .cons (.required "linking_uri") <| .cons (.required "redirect_uri_regex") <|
  .cons (.withDefault "bank_linking_uri" "") <| .cons (.withDefault "realm" []) .nil

/-- Written as an object of its fields. -/
instance : Wire BankInfo where
  codec := .record "BankInfo" fields
    (fun (linkingUri, redirectUriRegex, bankLinkingUri, realm, ()) => ⟨linkingUri, redirectUriRegex,
      bankLinkingUri, realm⟩)
    fun x => (x.linkingUri, x.redirectUriRegex, x.bankLinkingUri, x.realm, ())

end BankInfo

/-- A bank. -/
structure Bank where
  /-- Names the bank. -/
  id : String := ""
  /-- Its name. -/
  name : String := ""
  /-- A small picture. -/
  logoUri : String := ""
  /-- A large picture. -/
  fullLogoUri : String := ""
  /-- Kinds of transfer it makes. -/
  supportedTransferTypes : List String := []
  /-- Its country. -/
  country : String := ""
  /-- Through whom it is reached. -/
  provider : String := ""
deriving DecidableEq

namespace Bank

/-- All fields at their defaults. -/
instance : Inhabited Bank := ⟨{}⟩

/-- Members of the JSON object. -/
def fields : Fields (String × String × String × String × List String × String × String × Unit) :=
  .cons (.required "id") <| .cons (.required "name") <| .cons (.withDefault "logo_uri" "") <|
  .cons (.withDefault "full_logo_uri" "") <|
  .cons (.withDefault "supported_transfer_types" []) <| .cons (.withDefault "country" "") <|
  .cons (.withDefault "provider" "") .nil

/-- Written as an object of its fields. -/
instance : Wire Bank where
  codec := .record "Bank" fields
    (fun (id, name, logoUri, fullLogoUri, supportedTransferTypes, country, provider, ()) =>
      ⟨id, name, logoUri, fullLogoUri, supportedTransferTypes, country, provider⟩)
    fun x =>
      (x.id, x.name, x.logoUri, x.fullLogoUri, x.supportedTransferTypes, x.country, x.provider, ())

end Bank

/-- Where a list was cut into pages. -/
structure Paging where
  /-- This page. -/
  page : UInt32 := 0
  /-- How many pages there are. -/
  pageCount : UInt32 := 0
  /-- How many items a page has. -/
  perPage : UInt32 := 0
  /-- How many items there are. -/
  totalCount : UInt32 := 0
deriving DecidableEq

namespace Paging

/-- All fields at their defaults. -/
instance : Inhabited Paging := ⟨{}⟩

/-- Members of the JSON object. -/
def fields : Fields (UInt32 × UInt32 × UInt32 × UInt32 × Unit) :=
  .cons (.required "page") <| .cons (.required "page_count") <| .cons (.required "per_page") <|
  .cons (.required "total_count") .nil

/-- Written as an object of its fields. -/
instance : Wire Paging where
  codec := .record "Paging" fields
    (fun (page, pageCount, perPage, totalCount, ()) => ⟨page, pageCount, perPage, totalCount⟩)
    fun x => (x.page, x.pageCount, x.perPage, x.totalCount, ())

end Paging

/-- Which banks are asked for. -/
structure BankQuery where
  /-- Only these. -/
  ids : List String := []
  /-- Only with this in the name. -/
  search : Option String := none
  /-- Only in this country. -/
  country : Option String := none
  /-- This page. -/
  page : Option UInt32 := none
  /-- So many on a page. -/
  perPage : Option UInt32 := none
  /-- In this order. -/
  sort : Option String := none
  /-- Only through this provider. -/
  provider : Option String := none
deriving DecidableEq

namespace BankQuery

/-- All fields at their defaults. -/
instance : Inhabited BankQuery := ⟨{}⟩

/-- Members of the JSON object. -/
def fields :
    Fields (List String × Option String × Option String × Option UInt32 × Option UInt32
      × Option String × Option String × Unit) :=
  .cons (.unlessEmpty "ids") <| .cons (.optional "search") <| .cons (.optional "country") <|
  .cons (.optional "page") <| .cons (.optional "per_page") <| .cons (.optional "sort") <|
  .cons (.optional "provider") .nil

/-- Written as an object of its fields. -/
instance : Wire BankQuery where
  codec := .record "GetBanksRequest" fields
    (fun (ids, search, country, page, perPage, sort, provider, ()) =>
      ⟨ids, search, country, page, perPage, sort, provider⟩)
    fun x => (x.ids, x.search, x.country, x.page, x.perPage, x.sort, x.provider, ())

/-- One thing to ask for. -/
inductive Filter where
  /-- Only these banks. -/
  | ids (ids : List String)
  /-- Only with this in the name. -/
  | search (text : String)
  /-- Only in this country. -/
  | country (country : String)
  /-- This page. -/
  | page (page : UInt32)
  /-- So many on a page. -/
  | perPage (count : UInt32)
  /-- In this order. -/
  | sort (order : String)
  /-- Only through this provider. -/
  | provider (provider : String)
deriving DecidableEq

/-- The query with a filter; the last of a kind counts. -/
def filter (query : BankQuery) : Filter → BankQuery
  | .ids ids => { query with ids }
  | .search text => { query with search := some text }
  | .country country => { query with country := some country }
  | .page page => { query with page := some page }
  | .perPage count => { query with perPage := some count }
  | .sort order => { query with sort := some order }
  | .provider provider => { query with provider := some provider }

end BankQuery

end OpenBanking
