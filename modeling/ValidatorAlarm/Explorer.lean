import ValidatorAlarm.Url

/-!
# Links to the explorer

An explorer is a web site with a page for every key, below the address that an operator configures.
An alarm carries the link to the page of its key (`identity_url`, `join_url`), or none if no
explorer is configured or its address is no link.
-/
namespace ValidatorAlarm.Explorer

/-- Where the pages of keys are, below the address of the explorer. -/
def pages : String := "nodes"

/-- The link to the page of a key; empty if there is none. -/
def keyLink (explorer key : String) : String :=
  match Url.parse? explorer with
  | none => ""
  | some url => (url.descend [pages.toList, key.toList]).text

end ValidatorAlarm.Explorer
