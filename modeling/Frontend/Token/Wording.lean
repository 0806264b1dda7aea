/- What tokens are called in messages. -/
import Frontend.Token.Basic

namespace Frontend

def ticked (s : String) : String := "`" ++ s ++ "`"

/-- One wording for Korean readers and one for all others. -/
def koreanOrEnglish (korean english : String) (l : Locale) : String :=
  if l.language = "ko" then korean else english

def Operator.wording (op : Operator) : String := ticked op.spelling

def Punctuation.wording (p : Punctuation) (l : Locale) : String :=
  match p with
  | .newline => koreanOrEnglish "개행문자" "a newline" l
  | p => ticked p.spelling

def Keyword.wording (k : Keyword) : Locale → String :=
  koreanOrEnglish ("예약어 " ++ ticked k.spelling) ("a keyword " ++ ticked k.spelling)

def Attribute.wording (a : Attribute) : Locale → String :=
  koreanOrEnglish ("속성 " ++ ticked a.spelling) ("an attribute " ++ ticked a.spelling)

def Directive.wording (d : Directive) : Locale → String :=
  koreanOrEnglish ("지시어 " ++ ticked d.spelling) ("a directive " ++ ticked d.spelling)

def Token.wording (t : Token) (l : Locale) : String :=
  match t with
  | number .. => koreanOrEnglish "숫자" "a number" l
  | name _ => koreanOrEnglish "이름" "a name" l
  | unknown s =>
    koreanOrEnglish ("알 수 없는 문자 " ++ ticked s) ("an unknown character " ++ ticked s) l
  | char _ => koreanOrEnglish "문자 리터럴" "a character literal" l
  | string _ => koreanOrEnglish "문자열 리터럴" "a string literal" l
  | operator op => op.wording
  | punctuation p => p.wording l
  | keyword k => k.wording l
  | directive d => d.wording l
  | endOfFile => koreanOrEnglish "파일의 끝" "the end of file" l

def Token.message (t : Token) : Message := ⟨t.debug, t.wording⟩

end Frontend
