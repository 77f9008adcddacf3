import TypeComments.Command.Options

/-!
What the package says of itself, and how it is asked: each question is an option, and the answers are
printed in the order of the questions.
-/

namespace TypeComments

/-- The description of a package. -/
structure Package where
  name : List Char
  version : List Char
  author : List Char
  summary : List Char
  license : List Char
  url : List Char
  keywords : List (List Char)
  classifiers : List (List Char)

/-- What can be asked of a package. -/
inductive Package.Query where
  | name
  | version
  | fullName
  | author
  | url
  | license
  | summary
  | keywords
  | classifiers
  deriving DecidableEq

namespace Package.Query

def all : List Query :=
  [.name, .version, .fullName, .author, .url, .license, .summary, .keywords, .classifiers]

def option : Query → List Char
  | .name => "--name".toList
  | .version => "--version".toList
  | .fullName => "--fullname".toList
  | .author => "--author".toList
  | .url => "--url".toList
  | .license => "--license".toList
  | .summary => "--description".toList
  | .keywords => "--keywords".toList
  | .classifiers => "--classifiers".toList

def ofOption? (option : List Char) : Option Query :=
  all.find? (·.option == option)

end Package.Query

namespace Package

/-- The lines that answer a question. Keywords stand on one line, classifiers on a line each. -/
def answer (p : Package) : Query → List (List Char)
  | .name => [p.name]
  | .version => [p.version]
  | .fullName => [p.name ++ '-' :: p.version]
  | .author => [p.author]
  | .url => [p.url]
  | .license => [p.license]
  | .summary => [p.summary]
  | .keywords => [List.intercalate [','] p.keywords]
  | .classifiers => p.classifiers

def describe (p : Package) (options : List (List Char)) : List Char :=
  ((options.filterMap Query.ofOption?).flatMap p.answer).flatMap (· ++ ['\n'])

def this : Package where
  name := Command.programName
  version := Command.programVersion
  author := "Chad Dombrova".toList
  summary := "Generate PEP 484 type comments from docstrings".toList
  license := "MIT".toList
  url := "https://github.com/chadrik/doc484".toList
  keywords := ["mypy".toList, "typing".toList, "pep484".toList, "docstrings".toList, "annotations".toList]
  classifiers :=
    ["Development Status :: 4 - Beta".toList,
     "Intended Audience :: Developers".toList,
     "Topic :: Software Development :: Build Tools".toList,
     "License :: OSI Approved :: MIT License".toList,
     "Programming Language :: Python :: 2".toList,
     "Programming Language :: Python :: 2.7".toList,
     "Programming Language :: Python :: 3".toList,
     "Programming Language :: Python :: 3.6".toList,
     "Programming Language :: Python :: 3.7".toList]

end Package

end TypeComments
