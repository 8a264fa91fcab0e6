import ValidatorAlarm.Message

/-!
# Rendered batches

A push channel shows a whole batch of messages as one title and one body (`render_batch`).  The
title follows the worst message of the batch and names the source of the first; the body has one
paragraph for each message.  A markup says how the channel writes bold text and links, and what it
puts behind a paragraph.
-/
namespace ValidatorAlarm

structure Markup where
  bold : String → String
  link : String → String → String
  separator : String

namespace Markup

/-- Bold text and links as tags. -/
def html : Markup where
  bold text := "<b>" ++ text ++ "</b>"
  link url text := "<b><a href=\"" ++ url ++ "\">" ++ text ++ "</a></b>"
  separator := ""

/-- Tags in a mail, where line ends do not show and paragraphs need a break. -/
def mail : Markup := { html with separator := "<br>" }

/-- Bold text in stars, and links in angle brackets. -/
def chat : Markup where
  bold text := "*" ++ text ++ "*"
  link url text := "*<" ++ url ++ "|" ++ text ++ ">*"
  separator := ""

end Markup

/-- A batch as a push channel shows it. -/
structure Rendered where
  title : String
  body : String
deriving DecidableEq, Repr

namespace Severity

/-- The sign in front of a paragraph. -/
def icon : Severity → String
  | .info => "✅"
  | .warning => "⚠️"
  | .error => "🚨"

def title (source : String) : Severity → String
  | .info => "ⓘ Info for " ++ source
  | .warning => "⚠️ Warnings occurred on " ++ source
  | .error => "🚨 Problems occurred on " ++ source

end Severity

namespace Message

/-- How a message names what it is about: a link if it has one, else the bold short key, if any. -/
def identifier (markup : Markup) (m : Message) : String :=
  if m.identityUrl ≠ "" then markup.link m.identityUrl m.shortIdentityKey
  else if m.shortIdentityKey = "" then ""
  else markup.bold m.shortIdentityKey

def paragraph (markup : Markup) (m : Message) : String :=
  m.severity.icon ++ " " ++ m.category ++ " " ++ m.identifier markup ++
    (if m.detail = "" then "" else ": " ++ m.detail) ++ "\n\n"

def worst (first : Message) (others : List Message) : Severity :=
  others.foldl (fun worst m => worst.worse m.severity) first.severity

/-- A batch as a push channel shows it; an empty one is not shown. -/
def render? (markup : Markup) : List Message → Option Rendered
  | [] => none
  | first :: others => some {
      title := (worst first others).title first.sourceName
      body := String.join ((first :: others).map fun m => m.paragraph markup ++ markup.separator) }

def logLine (m : Message) : String :=
  (if m.category = "" then "" else m.category ++ " ") ++
    (if m.identityKey = "" then "" else m.identityKey ++ " ") ++
    (if m.detail = "" then "" else "-> " ++ m.detail ++ " ") ++
    "called by " ++ m.sourceName

end Message

/-- A mail with the title as its subject and the body as a web page. -/
def composeMail (batch : Rendered) : String :=
  "Subject: " ++ batch.title ++ " \nMIME-version: 1.0;\n" ++
    "Content-Type: text/html; charset=\"UTF-8\";\n\n\n\n" ++
    "<!DOCTYPE html>\n<html lang=\"en\">\n<body>\n   " ++ batch.body ++ "\n</body>\n</html>\n"

end ValidatorAlarm
