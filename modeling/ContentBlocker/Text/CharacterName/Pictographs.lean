/-!
# Names from U+1D000 to the end

The names of Unicode 14 for notations, pictographs and variation selectors,
line by line as `inLine?` reads them.
-/

namespace ContentBlocker.Text.CharacterName

def pictographs : String := "
1D000 BYZANTINE MUSICAL SYMBOL |PSILI|DASEIA|PERISPOMENI|OXEIA EKFONITIKON
1D004 BYZANTINE MUSICAL SYMBOL |OXEIA DIPLI|VAREIA EKFONITIKON|VAREIA DIPLI|KATHISTI|SYRMATIKI
1D009 BYZANTINE MUSICAL SYMBOL |PARAKLITIKI|YPOKRISIS|YPOKRISIS DIPLI|KREMASTI|APESO EKFONITIKON
1D00E BYZANTINE MUSICAL SYMBOL |EXO EKFONITIKON|TELEIA|KENTIMATA|APOSTROFOS|APOSTROFOS DIPLI
1D013 BYZANTINE MUSICAL SYMBOL |SYNEVMA|THITA|OLIGON ARCHAION|GORGON ARCHAION|PSILON|CHAMILON|VATHY
1D01A BYZANTINE MUSICAL SYMBOL |ISON ARCHAION|KENTIMA ARCHAION|KENTIMATA ARCHAION|SAXIMATA|PARICHON
1D01F BYZANTINE MUSICAL SYMBOL |STAVROS APODEXIA|OXEIAI ARCHAION|VAREIAI ARCHAION|APODERMA ARCHAION
1D023 BYZANTINE MUSICAL SYMBOL |APOTHEMA|KLASMA|REVMA|PIASMA ARCHAION|TINAGMA|ANATRICHISMA|SEISMA
1D02A BYZANTINE MUSICAL SYMBOL |SYNAGMA ARCHAION|SYNAGMA META STAVROU|OYRANISMA ARCHAION|THEMA|LEMOI
1D02F BYZANTINE MUSICAL SYMBOL |DYO|TRIA|TESSERA|KRATIMATA|APESO EXO NEO|FTHORA ARCHAION|IMIFTHORA
1D036 BYZANTINE MUSICAL SYMBOL |TROMIKON ARCHAION|KATAVA TROMIKON|PELASTON|PSIFISTON|KONTEVMA
1D03B BYZANTINE MUSICAL SYMBOL |CHOREVMA ARCHAION|RAPISMA|PARAKALESMA ARCHAION|PARAKLITIKI ARCHAION
1D03F BYZANTINE MUSICAL SYMBOL |ICHADIN|NANA|PETASMA|KONTEVMA ALLO|TROMIKON ALLO|STRAGGISMATA
1D045 BYZANTINE MUSICAL SYMBOL |GRONTHISMATA|ISON NEO|OLIGON NEO|OXEIA NEO|PETASTI|KOUFISMA
1D04B BYZANTINE MUSICAL SYMBOL |PETASTOKOUFISMA|KRATIMOKOUFISMA|PELASTON NEO|KENTIMATA NEO ANO
1D04F BYZANTINE MUSICAL SYMBOL |KENTIMA NEO ANO|YPSILI|APOSTROFOS NEO|APOSTROFOI SYNDESMOS NEO
1D053 BYZANTINE MUSICAL SYMBOL |YPORROI|KRATIMOYPORROON|ELAFRON|CHAMILI|MIKRON ISON|VAREIA NEO
1D059 BYZANTINE MUSICAL SYMBOL |PIASMA NEO|PSIFISTON NEO|OMALON|ANTIKENOMA|LYGISMA|PARAKLITIKI NEO
1D05F BYZANTINE MUSICAL SYMBOL |PARAKALESMA NEO|ETERON PARAKALESMA|KYLISMA|ANTIKENOKYLISMA
1D063 BYZANTINE MUSICAL SYMBOL |TROMIKON NEO|EKSTREPTON|SYNAGMA NEO|SYRMA|CHOREVMA NEO
1D068 BYZANTINE MUSICAL SYMBOL |EPEGERMA|SEISMA NEO|XIRON KLASMA|TROMIKOPSIFISTON|PSIFISTOLYGISMA
1D06D BYZANTINE MUSICAL SYMBOL |TROMIKOLYGISMA|TROMIKOPARAKALESMA|PSIFISTOPARAKALESMA|TROMIKOSYNAGMA
1D071 BYZANTINE MUSICAL SYMBOL |PSIFISTOSYNAGMA|GORGOSYNTHETON|ARGOSYNTHETON|ETERON ARGOSYNTHETON
1D075 BYZANTINE MUSICAL SYMBOL |OYRANISMA NEO|THEMATISMOS ESO|THEMATISMOS EXO|THEMA APLOUN
1D079 BYZANTINE MUSICAL SYMBOL |THES KAI APOTHES|KATAVASMA|ENDOFONON|YFEN KATO|YFEN ANO|STAVROS
1D07F BYZANTINE MUSICAL SYMBOL |KLASMA ANO|DIPLI ARCHAION|KRATIMA ARCHAION|KRATIMA ALLO|KRATIMA NEO
1D084 BYZANTINE MUSICAL SYMBOL |APODERMA NEO|APLI|DIPLI|TRIPLI|TETRAPLI|KORONIS|LEIMMA ENOS CHRONOU
1D08B BYZANTINE MUSICAL SYMBOL LEIMMA |DYO CHRONON|TRION CHRONON|TESSARON CHRONON|IMISEOS CHRONOU
1D08F BYZANTINE MUSICAL SYMBOL GORGON |NEO ANO|PARESTIGMENON ARISTERA|PARESTIGMENON DEXIA
1D092 |BYZANTINE MUSICAL SYMBOL DIGORGON
1D093 BYZANTINE MUSICAL SYMBOL DIGORGON PARESTIGMENON |ARISTERA KATO|ARISTERA ANO|DEXIA
1D096 BYZANTINE MUSICAL SYMBOL |TRIGORGON|ARGON|IMIDIARGON|DIARGON
1D09A BYZANTINE MUSICAL SYMBOL AGOGI |POLI ARGI|ARGOTERI|ARGI|METRIA|MESI|GORGI|GORGOTERI|POLI GORGI
1D0A2 BYZANTINE MUSICAL SYMBOL MARTYRIA |PROTOS ICHOS|ALLI PROTOS ICHOS|DEYTEROS ICHOS
1D0A5 BYZANTINE MUSICAL SYMBOL MARTYRIA |ALLI DEYTEROS ICHOS|TRITOS ICHOS|TRIFONIAS|TETARTOS ICHOS
1D0A9 BYZANTINE MUSICAL SYMBOL MARTYRIA |TETARTOS LEGETOS ICHOS|LEGETOS ICHOS|PLAGIOS ICHOS
1D0AC BYZANTINE MUSICAL SYMBOL |ISAKIA TELOUS ICHIMATOS|APOSTROFOI TELOUS ICHIMATOS
1D0AE BYZANTINE MUSICAL SYMBOL FANEROSIS |TETRAFONIAS|MONOFONIAS|DIFONIAS
1D0B1 BYZANTINE MUSICAL SYMBOL MARTYRIA |VARYS ICHOS|PROTOVARYS ICHOS|PLAGIOS TETARTOS ICHOS
1D0B4 BYZANTINE MUSICAL SYMBOL GORTHMIKON N |APLOUN|DIPLOUN
1D0B6 BYZANTINE MUSICAL SYMBOL |ENARXIS KAI FTHORA VOU|IMIFONON|IMIFTHORON
1D0B9 BYZANTINE MUSICAL SYMBOL FTHORA |ARCHAION DEYTEROU ICHOU|DIATONIKI PA
1D0BB BYZANTINE MUSICAL SYMBOL FTHORA |DIATONIKI NANA|NAOS ICHOS|DIATONIKI DI|SKLIRON DIATONON DI
1D0BF BYZANTINE MUSICAL SYMBOL FTHORA DIATONIKI |KE|ZO|NI KATO|NI ANO
1D0C3 BYZANTINE MUSICAL SYMBOL FTHORA MALAKON CHROMA |DIFONIAS|MONOFONIAS
1D0C5 |BYZANTINE MUSICAL SYMBOL FHTORA SKLIRON CHROMA VASIS
1D0C6 BYZANTINE MUSICAL SYMBOL FTHORA |SKLIRON CHROMA SYNAFI|NENANO
1D0C8 BYZANTINE MUSICAL SYMBOL |CHROA ZYGOS|CHROA KLITON|CHROA SPATHI|FTHORA I YFESIS TETARTIMORION
1D0CC BYZANTINE MUSICAL SYMBOL |FTHORA ENARMONIOS ANTIFONIA|YFESIS TRITIMORION|DIESIS TRITIMORION
1D0CF BYZANTINE MUSICAL SYMBOL DIESIS |TETARTIMORION|APLI DYO DODEKATA|MONOGRAMMOS TESSERA DODEKATA
1D0D2 BYZANTINE MUSICAL SYMBOL DIESIS |DIGRAMMOS EX DODEKATA|TRIGRAMMOS OKTO DODEKATA
1D0D4 BYZANTINE MUSICAL SYMBOL YFESIS |APLI DYO DODEKATA|MONOGRAMMOS TESSERA DODEKATA
1D0D6 BYZANTINE MUSICAL SYMBOL YFESIS |DIGRAMMOS EX DODEKATA|TRIGRAMMOS OKTO DODEKATA
1D0D8 BYZANTINE MUSICAL SYMBOL GENIKI |DIESIS|YFESIS
1D0DA BYZANTINE MUSICAL SYMBOL DIASTOLI |APLI MIKRI|APLI MEGALI|DIPLI|THESEOS
1D0DE BYZANTINE MUSICAL SYMBOL SIMANSIS |THESEOS|THESEOS DISIMOU|THESEOS TRISIMOU|THESEOS TETRASIMOU
1D0E2 BYZANTINE MUSICAL SYMBOL SIMANSIS |ARSEOS|ARSEOS DISIMOU|ARSEOS TRISIMOU|ARSEOS TETRASIMOU
1D0E6 BYZANTINE MUSICAL SYMBOL |DIGRAMMA GG|DIFTOGGOS OU|STIGMA
1D0E9 BYZANTINE MUSICAL SYMBOL ARKTIKO |PA|VOU|GA|DI|KE|ZO|NI
1D0F0 BYZANTINE MUSICAL SYMBOL |KENTIMATA NEO MESO|KENTIMA NEO MESO
1D0F2 BYZANTINE MUSICAL SYMBOL |KENTIMATA NEO KATO|KENTIMA NEO KATO|KLASMA KATO|GORGON NEO KATO
1D100 MUSICAL SYMBOL |SINGLE BARLINE|DOUBLE BARLINE|FINAL BARLINE|REVERSE FINAL BARLINE
1D104 MUSICAL SYMBOL |DASHED BARLINE|SHORT BARLINE|LEFT REPEAT SIGN|RIGHT REPEAT SIGN
1D108 MUSICAL SYMBOL |REPEAT DOTS|DAL SEGNO|DA CAPO|SEGNO|CODA|REPEATED FIGURE-1|REPEATED FIGURE-2
1D10F MUSICAL SYMBOL |REPEATED FIGURE-3|FERMATA|FERMATA BELOW|BREATH MARK|CAESURA|BRACE|BRACKET
1D116 MUSICAL SYMBOL |ONE-LINE STAFF|TWO-LINE STAFF|THREE-LINE STAFF|FOUR-LINE STAFF|FIVE-LINE STAFF
1D11B MUSICAL SYMBOL |SIX-LINE STAFF|SIX-STRING FRETBOARD|FOUR-STRING FRETBOARD|G CLEF
1D11F MUSICAL SYMBOL G CLEF OTTAVA |ALTA|BASSA
1D121 MUSICAL SYMBOL |C CLEF|F CLEF|F CLEF OTTAVA ALTA|F CLEF OTTAVA BASSA|DRUM CLEF-1|DRUM CLEF-2
1D129 MUSICAL SYMBOL |MULTIPLE MEASURE REST|DOUBLE SHARP|DOUBLE FLAT|FLAT UP
1D12D MUSICAL SYMBOL |FLAT DOWN|NATURAL UP|NATURAL DOWN|SHARP UP|SHARP DOWN|QUARTER TONE SHARP
1D133 MUSICAL SYMBOL |QUARTER TONE FLAT|COMMON TIME|CUT TIME|OTTAVA ALTA|OTTAVA BASSA
1D138 MUSICAL SYMBOL |QUINDICESIMA ALTA|QUINDICESIMA BASSA|MULTI REST|WHOLE REST|HALF REST
1D13D MUSICAL SYMBOL |QUARTER REST|EIGHTH REST|SIXTEENTH REST|THIRTY-SECOND REST|SIXTY-FOURTH REST
1D142 MUSICAL SYMBOL |ONE HUNDRED TWENTY-EIGHTH REST|X NOTEHEAD|PLUS NOTEHEAD|CIRCLE X NOTEHEAD
1D146 MUSICAL SYMBOL SQUARE NOTEHEAD |WHITE|BLACK
1D148 MUSICAL SYMBOL TRIANGLE NOTEHEAD |UP WHITE|UP BLACK|LEFT WHITE
1D14B MUSICAL SYMBOL TRIANGLE NOTEHEAD |LEFT BLACK|RIGHT WHITE|RIGHT BLACK|DOWN WHITE|DOWN BLACK
1D150 MUSICAL SYMBOL TRIANGLE NOTEHEAD UP RIGHT |WHITE|BLACK
1D152 MUSICAL SYMBOL MOON NOTEHEAD |WHITE|BLACK
1D154 MUSICAL SYMBOL TRIANGLE-ROUND NOTEHEAD DOWN |WHITE|BLACK
1D156 MUSICAL SYMBOL |PARENTHESIS NOTEHEAD|VOID NOTEHEAD|NOTEHEAD BLACK|NULL NOTEHEAD
1D15A MUSICAL SYMBOL CLUSTER NOTEHEAD |WHITE|BLACK
1D15C MUSICAL SYMBOL |BREVE|WHOLE NOTE|HALF NOTE|QUARTER NOTE|EIGHTH NOTE|SIXTEENTH NOTE
1D162 MUSICAL SYMBOL |THIRTY-SECOND NOTE|SIXTY-FOURTH NOTE|ONE HUNDRED TWENTY-EIGHTH NOTE
1D165 MUSICAL SYMBOL COMBINING |STEM|SPRECHGESANG STEM|TREMOLO-1|TREMOLO-2|TREMOLO-3
1D16A MUSICAL SYMBOL FINGERED |TREMOLO-1|TREMOLO-2|TREMOLO-3
1D16D MUSICAL SYMBOL COMBINING |AUGMENTATION DOT|FLAG-1|FLAG-2|FLAG-3|FLAG-4|FLAG-5
1D173 MUSICAL SYMBOL |BEGIN BEAM|END BEAM|BEGIN TIE|END TIE|BEGIN SLUR
1D178 MUSICAL SYMBOL |END SLUR|BEGIN PHRASE|END PHRASE|COMBINING ACCENT|COMBINING STACCATO
1D17D MUSICAL SYMBOL COMBINING |TENUTO|STACCATISSIMO|MARCATO|MARCATO-STACCATO|ACCENT-STACCATO|LOURE
1D183 MUSICAL SYMBOL ARPEGGIATO |UP|DOWN
1D185 MUSICAL SYMBOL COMBINING |DOIT|RIP|FLIP|SMEAR|BEND|DOUBLE TONGUE|TRIPLE TONGUE
1D18C MUSICAL SYMBOL |RINFORZANDO|SUBITO|Z|PIANO|MEZZO|FORTE|CRESCENDO|DECRESCENDO
1D194 MUSICAL SYMBOL |GRACE NOTE SLASH|GRACE NOTE NO SLASH|TR|TURN|INVERTED TURN|TURN SLASH|TURN UP
1D19B MUSICAL SYMBOL ORNAMENT |STROKE-1|STROKE-2|STROKE-3|STROKE-4
1D19F MUSICAL SYMBOL ORNAMENT |STROKE-5|STROKE-6|STROKE-7|STROKE-8|STROKE-9|STROKE-10|STROKE-11
1D1A6 MUSICAL SYMBOL |HAUPTSTIMME|NEBENSTIMME|END OF STIMME|DEGREE SLASH
1D1AA MUSICAL SYMBOL COMBINING |DOWN BOW|UP BOW|HARMONIC|SNAP PIZZICATO
1D1AE MUSICAL SYMBOL PEDAL |MARK|UP MARK
1D1B0 MUSICAL SYMBOL |HALF PEDAL MARK|GLISSANDO UP|GLISSANDO DOWN|WITH FINGERNAILS|DAMP|DAMP ALL
1D1B6 MUSICAL SYMBOL |MAXIMA|LONGA|BREVIS|SEMIBREVIS WHITE|SEMIBREVIS BLACK|MINIMA|MINIMA BLACK
1D1BD MUSICAL SYMBOL |SEMIMINIMA WHITE|SEMIMINIMA BLACK|FUSA WHITE|FUSA BLACK|LONGA PERFECTA REST
1D1C2 MUSICAL SYMBOL |LONGA IMPERFECTA REST|BREVIS REST|SEMIBREVIS REST|MINIMA REST|SEMIMINIMA REST
1D1C7 MUSICAL SYMBOL TEMPUS PERFECTUM CUM PROLATIONE |PERFECTA|IMPERFECTA|PERFECTA DIMINUTION-1
1D1CA MUSICAL SYMBOL TEMPUS IMPERFECTUM CUM PROLATIONE |PERFECTA|IMPERFECTA|IMPERFECTA DIMINUTION-1
1D1CD MUSICAL SYMBOL TEMPUS IMPERFECTUM CUM PROLATIONE IMPERFECTA |DIMINUTION-2|DIMINUTION-3
1D1CF MUSICAL SYMBOL |CROIX|GREGORIAN C CLEF
1D1D1 MUSICAL SYMBOL |GREGORIAN F CLEF|SQUARE B|VIRGA|PODATUS|CLIVIS|SCANDICUS|CLIMACUS|TORCULUS
1D1D9 MUSICAL SYMBOL |PORRECTUS|PORRECTUS FLEXUS|SCANDICUS FLEXUS|TORCULUS RESUPINUS|PES SUBPUNCTIS
1D1DE MUSICAL SYMBOL KIEVAN |C CLEF|END OF PIECE|FINAL NOTE|RECITATIVE MARK|WHOLE NOTE|HALF NOTE
1D1E4 MUSICAL SYMBOL KIEVAN QUARTER NOTE STEM |DOWN|UP
1D1E6 MUSICAL SYMBOL KIEVAN EIGHTH NOTE STEM |DOWN|UP
1D1E8 MUSICAL SYMBOL |KIEVAN FLAT SIGN|SORI|KORON
1D200 GREEK VOCAL NOTATION |SYMBOL-1|SYMBOL-2|SYMBOL-3|SYMBOL-4|SYMBOL-5|SYMBOL-6|SYMBOL-7|SYMBOL-8
1D208 GREEK VOCAL NOTATION |SYMBOL-9|SYMBOL-10|SYMBOL-11|SYMBOL-12|SYMBOL-13|SYMBOL-14|SYMBOL-15
1D20F GREEK VOCAL NOTATION |SYMBOL-16|SYMBOL-17|SYMBOL-18|SYMBOL-19|SYMBOL-20|SYMBOL-21|SYMBOL-22
1D216 GREEK VOCAL NOTATION |SYMBOL-23|SYMBOL-24|SYMBOL-50|SYMBOL-51|SYMBOL-52|SYMBOL-53|SYMBOL-54
1D21D GREEK INSTRUMENTAL NOTATION |SYMBOL-1|SYMBOL-2|SYMBOL-4|SYMBOL-5|SYMBOL-7|SYMBOL-8|SYMBOL-11
1D224 GREEK INSTRUMENTAL NOTATION |SYMBOL-12|SYMBOL-13|SYMBOL-14|SYMBOL-17|SYMBOL-18|SYMBOL-19
1D22A GREEK INSTRUMENTAL NOTATION |SYMBOL-23|SYMBOL-24|SYMBOL-25|SYMBOL-26|SYMBOL-27|SYMBOL-29
1D230 GREEK INSTRUMENTAL NOTATION |SYMBOL-30|SYMBOL-32|SYMBOL-36|SYMBOL-37|SYMBOL-38|SYMBOL-39
1D236 GREEK INSTRUMENTAL NOTATION |SYMBOL-40|SYMBOL-42|SYMBOL-43|SYMBOL-45|SYMBOL-47|SYMBOL-48
1D23C GREEK INSTRUMENTAL NOTATION |SYMBOL-49|SYMBOL-50|SYMBOL-51|SYMBOL-52|SYMBOL-53|SYMBOL-54
1D242 COMBINING GREEK MUSICAL |TRISEME|TETRASEME|PENTASEME
1D245 |GREEK MUSICAL LEIMMA
1D2E0 MAYAN NUMERAL |ZERO|ONE|TWO|THREE|FOUR|FIVE|SIX|SEVEN|EIGHT|NINE
1D2EA MAYAN NUMERAL |TEN|ELEVEN|TWELVE|THIRTEEN|FOURTEEN|FIFTEEN|SIXTEEN|SEVENTEEN|EIGHTEEN|NINETEEN
1D300 |MONOGRAM FOR EARTH
1D301 DIGRAM FOR |HEAVENLY EARTH|HUMAN EARTH|EARTHLY HEAVEN|EARTHLY HUMAN|EARTH
1D306 TETRAGRAM FOR |CENTRE|FULL CIRCLE|MIRED|BARRIER|KEEPING SMALL|CONTRARIETY|ASCENT
1D30D TETRAGRAM FOR |OPPOSITION|BRANCHING OUT|DEFECTIVENESS OR DISTORTION|DIVERGENCE|YOUTHFULNESS
1D312 TETRAGRAM FOR |INCREASE|PENETRATION|REACH|CONTACT|HOLDING BACK|WAITING|FOLLOWING|ADVANCE
1D31A TETRAGRAM FOR |RELEASE|RESISTANCE|EASE|JOY|CONTENTION|ENDEAVOUR|DUTIES|CHANGE|DECISIVENESS
1D323 TETRAGRAM FOR |BOLD RESOLUTION|PACKING|LEGION|CLOSENESS|KINSHIP|GATHERING|STRENGTH
1D32A TETRAGRAM FOR |PURITY|FULLNESS|RESIDENCE|LAW OR MODEL|RESPONSE|GOING TO MEET|ENCOUNTERS
1D331 TETRAGRAM FOR |STOVE|GREATNESS|ENLARGEMENT|PATTERN|RITUAL|FLIGHT|VASTNESS OR WASTING|CONSTANCY
1D339 TETRAGRAM FOR |MEASURE|ETERNITY|UNITY|DIMINISHMENT|CLOSED MOUTH|GUARDEDNESS|GATHERING IN
1D340 TETRAGRAM FOR |MASSING|ACCUMULATION|EMBELLISHMENT|DOUBT|WATCH|SINKING|INNER|DEPARTURE
1D348 TETRAGRAM FOR |DARKENING|DIMMING|EXHAUSTION|SEVERANCE|STOPPAGE|HARDNESS|COMPLETION|CLOSURE
1D350 TETRAGRAM FOR |FAILURE|AGGRAVATION|COMPLIANCE|ON THE VERGE|DIFFICULTIES|LABOURING|FOSTERING
1D360 COUNTING ROD UNIT DIGIT |ONE|TWO|THREE|FOUR|FIVE|SIX|SEVEN|EIGHT|NINE
1D369 COUNTING ROD TENS DIGIT |ONE|TWO|THREE|FOUR|FIVE|SIX|SEVEN|EIGHT|NINE
1D372 IDEOGRAPHIC TALLY MARK |ONE|TWO|THREE|FOUR|FIVE
1D377 TALLY MARK |ONE|FIVE
1D400 MATHEMATICAL BOLD CAPITAL |A|B|C|D|E|F|G|H|I|J|K|L|M|N|O|P|Q|R|S|T|U|V|W|X|Y|Z
1D41A MATHEMATICAL BOLD SMALL |A|B|C|D|E|F|G|H|I|J|K|L|M|N|O|P|Q|R|S|T|U|V|W|X|Y|Z
1D434 MATHEMATICAL ITALIC CAPITAL |A|B|C|D|E|F|G|H|I|J|K|L|M|N|O|P|Q|R|S|T|U|V|W|X|Y|Z
1D44E MATHEMATICAL ITALIC SMALL |A|B|C|D|E|F|G
1D456 MATHEMATICAL ITALIC SMALL |I|J|K|L|M|N|O|P|Q|R|S|T|U|V|W|X|Y|Z
1D468 MATHEMATICAL BOLD ITALIC CAPITAL |A|B|C|D|E|F|G|H|I|J|K|L|M|N|O|P|Q|R|S|T|U|V|W|X|Y|Z
1D482 MATHEMATICAL BOLD ITALIC SMALL |A|B|C|D|E|F|G|H|I|J|K|L|M|N|O|P|Q|R|S|T|U|V|W|X|Y|Z
1D49C |MATHEMATICAL SCRIPT CAPITAL A
1D49E MATHEMATICAL SCRIPT CAPITAL |C|D
1D4A2 |MATHEMATICAL SCRIPT CAPITAL G
1D4A5 MATHEMATICAL SCRIPT CAPITAL |J|K
1D4A9 MATHEMATICAL SCRIPT CAPITAL |N|O|P|Q
1D4AE MATHEMATICAL SCRIPT CAPITAL |S|T|U|V|W|X|Y|Z
1D4B6 MATHEMATICAL SCRIPT SMALL |A|B|C|D
1D4BB |MATHEMATICAL SCRIPT SMALL F
1D4BD MATHEMATICAL SCRIPT SMALL |H|I|J|K|L|M|N
1D4C5 MATHEMATICAL SCRIPT SMALL |P|Q|R|S|T|U|V|W|X|Y|Z
1D4D0 MATHEMATICAL BOLD SCRIPT CAPITAL |A|B|C|D|E|F|G|H|I|J|K|L|M|N|O|P|Q|R|S|T|U|V|W|X|Y|Z
1D4EA MATHEMATICAL BOLD SCRIPT SMALL |A|B|C|D|E|F|G|H|I|J|K|L|M|N|O|P|Q|R|S|T|U|V|W|X|Y|Z
1D504 MATHEMATICAL FRAKTUR CAPITAL |A|B
1D507 MATHEMATICAL FRAKTUR CAPITAL |D|E|F|G
1D50D MATHEMATICAL FRAKTUR CAPITAL |J|K|L|M|N|O|P|Q
1D516 MATHEMATICAL FRAKTUR CAPITAL |S|T|U|V|W|X|Y
1D51E MATHEMATICAL FRAKTUR SMALL |A|B|C|D|E|F|G|H|I|J|K|L|M|N|O|P|Q|R|S|T|U|V|W|X|Y|Z
1D538 MATHEMATICAL DOUBLE-STRUCK CAPITAL |A|B
1D53B MATHEMATICAL DOUBLE-STRUCK CAPITAL |D|E|F|G
1D540 MATHEMATICAL DOUBLE-STRUCK CAPITAL |I|J|K|L|M
1D546 |MATHEMATICAL DOUBLE-STRUCK CAPITAL O
1D54A MATHEMATICAL DOUBLE-STRUCK CAPITAL |S|T|U|V|W|X|Y
1D552 MATHEMATICAL DOUBLE-STRUCK SMALL |A|B|C|D|E|F|G|H|I|J|K|L|M|N|O|P|Q|R|S|T|U|V|W|X|Y|Z
1D56C MATHEMATICAL BOLD FRAKTUR CAPITAL |A|B|C|D|E|F|G|H|I|J|K|L|M|N|O|P|Q|R|S|T|U|V|W|X|Y|Z
1D586 MATHEMATICAL BOLD FRAKTUR SMALL |A|B|C|D|E|F|G|H|I|J|K|L|M|N|O|P|Q|R|S|T|U|V|W|X|Y|Z
1D5A0 MATHEMATICAL SANS-SERIF CAPITAL |A|B|C|D|E|F|G|H|I|J|K|L|M|N|O|P|Q|R|S|T|U|V|W|X|Y|Z
1D5BA MATHEMATICAL SANS-SERIF SMALL |A|B|C|D|E|F|G|H|I|J|K|L|M|N|O|P|Q|R|S|T|U|V|W|X|Y|Z
1D5D4 MATHEMATICAL SANS-SERIF BOLD CAPITAL |A|B|C|D|E|F|G|H|I|J|K|L|M|N|O|P|Q|R|S|T|U|V|W|X|Y|Z
1D5EE MATHEMATICAL SANS-SERIF BOLD SMALL |A|B|C|D|E|F|G|H|I|J|K|L|M|N|O|P|Q|R|S|T|U|V|W|X|Y|Z
1D608 MATHEMATICAL SANS-SERIF ITALIC CAPITAL |A|B|C|D|E|F|G|H|I|J|K|L|M|N|O|P|Q|R|S|T|U|V|W|X|Y|Z
1D622 MATHEMATICAL SANS-SERIF ITALIC SMALL |A|B|C|D|E|F|G|H|I|J|K|L|M|N|O|P|Q|R|S|T|U|V|W|X|Y|Z
1D63C |MATHEMATICAL SANS-SERIF BOLD ITALIC CAPITAL A
1D63D MATHEMATICAL SANS-SERIF BOLD ITALIC CAPITAL |B|C|D|E|F|G|H|I|J|K|L|M|N|O|P|Q|R|S|T|U|V|W|X|Y|Z
1D656 MATHEMATICAL SANS-SERIF BOLD ITALIC SMALL |A|B|C|D|E|F|G|H|I|J|K|L|M|N|O|P|Q|R|S|T|U|V|W|X|Y|Z
1D670 MATHEMATICAL MONOSPACE CAPITAL |A|B|C|D|E|F|G|H|I|J|K|L|M|N|O|P|Q|R|S|T|U|V|W|X|Y|Z
1D68A MATHEMATICAL MONOSPACE SMALL |A|B|C|D|E|F|G|H|I|J|K|L|M|N|O|P|Q|R|S|T|U|V|W|X|Y|Z
1D6A4 MATHEMATICAL ITALIC SMALL DOTLESS |I|J
1D6A8 MATHEMATICAL BOLD CAPITAL |ALPHA|BETA|GAMMA|DELTA|EPSILON|ZETA|ETA|THETA|IOTA|KAPPA|LAMDA
1D6B3 MATHEMATICAL BOLD CAPITAL |MU|NU|XI|OMICRON|PI|RHO|THETA SYMBOL|SIGMA|TAU|UPSILON|PHI|CHI|PSI
1D6C0 MATHEMATICAL BOLD |CAPITAL OMEGA|NABLA
1D6C2 MATHEMATICAL BOLD SMALL |ALPHA|BETA|GAMMA|DELTA|EPSILON|ZETA|ETA|THETA|IOTA|KAPPA|LAMDA|MU
1D6CE MATHEMATICAL BOLD SMALL |NU|XI|OMICRON|PI|RHO|FINAL SIGMA|SIGMA|TAU|UPSILON|PHI|CHI|PSI|OMEGA
1D6DB |MATHEMATICAL BOLD PARTIAL DIFFERENTIAL
1D6DC MATHEMATICAL BOLD |EPSILON SYMBOL|THETA SYMBOL|KAPPA SYMBOL|PHI SYMBOL|RHO SYMBOL|PI SYMBOL
1D6E2 MATHEMATICAL ITALIC CAPITAL |ALPHA|BETA|GAMMA|DELTA|EPSILON|ZETA|ETA|THETA|IOTA|KAPPA|LAMDA|MU
1D6EE MATHEMATICAL ITALIC CAPITAL |NU|XI|OMICRON|PI|RHO|THETA SYMBOL|SIGMA|TAU|UPSILON|PHI|CHI|PSI
1D6FA MATHEMATICAL ITALIC |CAPITAL OMEGA|NABLA
1D6FC MATHEMATICAL ITALIC SMALL |ALPHA|BETA|GAMMA|DELTA|EPSILON|ZETA|ETA|THETA|IOTA|KAPPA|LAMDA
1D707 MATHEMATICAL ITALIC SMALL |MU|NU|XI|OMICRON|PI|RHO|FINAL SIGMA|SIGMA|TAU|UPSILON|PHI|CHI|PSI
1D714 MATHEMATICAL ITALIC |SMALL OMEGA|PARTIAL DIFFERENTIAL
1D716 MATHEMATICAL ITALIC |EPSILON SYMBOL|THETA SYMBOL|KAPPA SYMBOL|PHI SYMBOL|RHO SYMBOL|PI SYMBOL
1D71C MATHEMATICAL BOLD ITALIC CAPITAL |ALPHA|BETA|GAMMA|DELTA|EPSILON|ZETA|ETA|THETA|IOTA|KAPPA
1D726 MATHEMATICAL BOLD ITALIC CAPITAL |LAMDA|MU|NU|XI|OMICRON|PI|RHO|THETA SYMBOL|SIGMA|TAU|UPSILON
1D731 MATHEMATICAL BOLD ITALIC |CAPITAL PHI|CAPITAL CHI|CAPITAL PSI|CAPITAL OMEGA|NABLA
1D736 MATHEMATICAL BOLD ITALIC SMALL |ALPHA|BETA|GAMMA|DELTA|EPSILON|ZETA|ETA|THETA|IOTA|KAPPA|LAMDA
1D741 MATHEMATICAL BOLD ITALIC SMALL |MU|NU|XI|OMICRON|PI|RHO|FINAL SIGMA|SIGMA|TAU|UPSILON|PHI|CHI
1D74D MATHEMATICAL BOLD ITALIC |SMALL PSI|SMALL OMEGA|PARTIAL DIFFERENTIAL|EPSILON SYMBOL
1D751 MATHEMATICAL BOLD ITALIC |THETA SYMBOL|KAPPA SYMBOL|PHI SYMBOL|RHO SYMBOL|PI SYMBOL
1D756 MATHEMATICAL SANS-SERIF BOLD CAPITAL |ALPHA|BETA|GAMMA|DELTA
1D75A MATHEMATICAL SANS-SERIF BOLD CAPITAL |EPSILON|ZETA|ETA|THETA|IOTA|KAPPA|LAMDA|MU|NU|XI|OMICRON
1D765 MATHEMATICAL SANS-SERIF BOLD CAPITAL |PI|RHO|THETA SYMBOL|SIGMA|TAU|UPSILON|PHI|CHI|PSI|OMEGA
1D76F MATHEMATICAL SANS-SERIF BOLD |NABLA|SMALL ALPHA|SMALL BETA
1D772 MATHEMATICAL SANS-SERIF BOLD SMALL |GAMMA|DELTA|EPSILON|ZETA|ETA|THETA|IOTA|KAPPA|LAMDA|MU
1D77C MATHEMATICAL SANS-SERIF BOLD SMALL |NU|XI|OMICRON|PI|RHO|FINAL SIGMA|SIGMA|TAU|UPSILON|PHI|CHI
1D787 MATHEMATICAL SANS-SERIF BOLD |SMALL PSI|SMALL OMEGA|PARTIAL DIFFERENTIAL|EPSILON SYMBOL
1D78B MATHEMATICAL SANS-SERIF BOLD |THETA SYMBOL|KAPPA SYMBOL|PHI SYMBOL|RHO SYMBOL|PI SYMBOL
1D790 MATHEMATICAL SANS-SERIF BOLD ITALIC CAPITAL |ALPHA|BETA|GAMMA|DELTA|EPSILON|ZETA|ETA
1D797 MATHEMATICAL SANS-SERIF BOLD ITALIC CAPITAL |THETA|IOTA|KAPPA|LAMDA|MU|NU|XI|OMICRON|PI|RHO
1D7A1 MATHEMATICAL SANS-SERIF BOLD ITALIC CAPITAL |THETA SYMBOL|SIGMA|TAU|UPSILON|PHI|CHI|PSI|OMEGA
1D7A9 |MATHEMATICAL SANS-SERIF BOLD ITALIC NABLA
1D7AA MATHEMATICAL SANS-SERIF BOLD ITALIC SMALL |ALPHA|BETA|GAMMA|DELTA|EPSILON
1D7AF MATHEMATICAL SANS-SERIF BOLD ITALIC SMALL |ZETA|ETA|THETA|IOTA|KAPPA|LAMDA|MU|NU|XI|OMICRON|PI
1D7BA MATHEMATICAL SANS-SERIF BOLD ITALIC SMALL |RHO|FINAL SIGMA|SIGMA|TAU|UPSILON|PHI|CHI|PSI|OMEGA
1D7C3 MATHEMATICAL SANS-SERIF BOLD ITALIC |PARTIAL DIFFERENTIAL|EPSILON SYMBOL
1D7C5 MATHEMATICAL SANS-SERIF BOLD ITALIC |THETA SYMBOL|KAPPA SYMBOL|PHI SYMBOL|RHO SYMBOL|PI SYMBOL
1D7CA MATHEMATICAL BOLD |CAPITAL DIGAMMA|SMALL DIGAMMA
1D7CE MATHEMATICAL BOLD DIGIT |ZERO|ONE|TWO|THREE|FOUR|FIVE|SIX|SEVEN|EIGHT|NINE
1D7D8 MATHEMATICAL DOUBLE-STRUCK DIGIT |ZERO|ONE|TWO|THREE|FOUR|FIVE|SIX|SEVEN|EIGHT|NINE
1D7E2 MATHEMATICAL SANS-SERIF DIGIT |ZERO|ONE|TWO|THREE|FOUR|FIVE|SIX|SEVEN|EIGHT|NINE
1D7EC MATHEMATICAL SANS-SERIF BOLD DIGIT |ZERO|ONE|TWO|THREE|FOUR|FIVE|SIX|SEVEN|EIGHT|NINE
1D7F6 MATHEMATICAL MONOSPACE DIGIT |ZERO|ONE|TWO|THREE|FOUR|FIVE|SIX|SEVEN|EIGHT|NINE
1D800 SIGNWRITING |HAND-FIST INDEX|HAND-CIRCLE INDEX
1D802 SIGNWRITING |HAND-CUP INDEX|HAND-OVAL INDEX|HAND-HINGE INDEX|HAND-ANGLE INDEX
1D806 SIGNWRITING |HAND-FIST INDEX BENT|HAND-CIRCLE INDEX BENT|HAND-FIST THUMB UNDER INDEX BENT
1D809 SIGNWRITING HAND-FIST INDEX |RAISED KNUCKLE|CUPPED|HINGED|HINGED LOW
1D80D SIGNWRITING |HAND-CIRCLE INDEX HINGE|HAND-FIST INDEX MIDDLE|HAND-CIRCLE INDEX MIDDLE
1D810 SIGNWRITING HAND-FIST INDEX MIDDLE |BENT|RAISED KNUCKLES|HINGED
1D813 SIGNWRITING HAND-FIST INDEX |UP MIDDLE HINGED|HINGED MIDDLE UP|MIDDLE CONJOINED
1D816 SIGNWRITING HAND-FIST INDEX MIDDLE CONJOINED |INDEX BENT|MIDDLE BENT|CUPPED|HINGED
1D81A SIGNWRITING |HAND-FIST INDEX MIDDLE CROSSED|HAND-CIRCLE INDEX MIDDLE CROSSED
1D81C SIGNWRITING HAND-FIST |MIDDLE BENT OVER INDEX|INDEX BENT OVER MIDDLE|INDEX MIDDLE THUMB
1D81F SIGNWRITING |HAND-CIRCLE INDEX MIDDLE THUMB|HAND-FIST INDEX MIDDLE STRAIGHT THUMB BENT
1D821 SIGNWRITING HAND-FIST INDEX MIDDLE |BENT THUMB STRAIGHT|THUMB BENT|HINGED SPREAD THUMB SIDE
1D824 SIGNWRITING HAND-FIST INDEX UP MIDDLE HINGED THUMB |SIDE|CONJOINED
1D826 SIGNWRITING HAND-FIST INDEX |HINGED MIDDLE UP THUMB SIDE|MIDDLE UP SPREAD THUMB FORWARD
1D828 SIGNWRITING HAND-FIST INDEX MIDDLE THUMB |CUPPED|CIRCLED|HOOKED|HINGED
1D82C |SIGNWRITING HAND-FIST THUMB BETWEEN INDEX MIDDLE STRAIGHT
1D82D SIGNWRITING HAND-FIST INDEX MIDDLE CONJOINED THUMB |SIDE|SIDE CONJOINED|SIDE BENT
1D830 SIGNWRITING HAND-FIST |MIDDLE THUMB HOOKED INDEX UP|INDEX THUMB HOOKED MIDDLE UP
1D832 SIGNWRITING HAND-FIST INDEX MIDDLE |CONJOINED HINGED THUMB SIDE|CROSSED THUMB SIDE
1D834 SIGNWRITING HAND-FIST INDEX MIDDLE CONJOINED |THUMB FORWARD|CUPPED THUMB FORWARD
1D836 SIGNWRITING HAND-FIST |MIDDLE THUMB CUPPED INDEX UP|INDEX THUMB CUPPED MIDDLE UP
1D838 SIGNWRITING HAND-FIST MIDDLE THUMB CIRCLED INDEX |UP|HINGED
1D83A SIGNWRITING HAND-FIST INDEX THUMB |ANGLED OUT MIDDLE UP|ANGLED IN MIDDLE UP|CIRCLED MIDDLE UP
1D83D SIGNWRITING HAND-FIST INDEX MIDDLE THUMB |CONJOINED HINGED|ANGLED OUT|ANGLED
1D840 SIGNWRITING HAND-FIST MIDDLE THUMB ANGLED |OUT INDEX UP|OUT INDEX CROSSED|INDEX UP
1D843 SIGNWRITING |HAND-FIST INDEX THUMB HOOKED MIDDLE HINGED|HAND-FLAT FOUR FINGERS
1D845 SIGNWRITING HAND-FLAT FOUR FINGERS |BENT|HINGED|CONJOINED|CONJOINED SPLIT
1D849 SIGNWRITING |HAND-CLAW FOUR FINGERS CONJOINED|HAND-FIST FOUR FINGERS CONJOINED BENT
1D84B SIGNWRITING |HAND-HINGE FOUR FINGERS CONJOINED|HAND-FLAT FIVE FINGERS SPREAD
1D84D SIGNWRITING HAND-FLAT |HEEL FIVE FINGERS SPREAD|FIVE FINGERS SPREAD FOUR BENT
1D84F SIGNWRITING HAND-FLAT |HEEL FIVE FINGERS SPREAD FOUR BENT|FIVE FINGERS SPREAD BENT
1D851 SIGNWRITING HAND-FLAT |HEEL FIVE FINGERS SPREAD BENT|FIVE FINGERS SPREAD THUMB FORWARD
1D853 SIGNWRITING HAND-CUP FIVE FINGERS |SPREAD|SPREAD OPEN
1D855 SIGNWRITING |HAND-HINGE FIVE FINGERS SPREAD OPEN|HAND-OVAL FIVE FINGERS SPREAD
1D857 SIGNWRITING HAND-FLAT FIVE FINGERS SPREAD |HINGED|HINGED THUMB SIDE|HINGED NO THUMB
1D85A SIGNWRITING |HAND-FLAT|HAND-FLAT BETWEEN PALM FACINGS
1D85C SIGNWRITING HAND-FLAT |HEEL|THUMB SIDE|HEEL THUMB SIDE|THUMB BENT|THUMB FORWARD
1D861 SIGNWRITING HAND-FLAT SPLIT |INDEX THUMB SIDE|CENTRE|CENTRE THUMB SIDE|CENTRE THUMB SIDE BENT
1D865 SIGNWRITING |HAND-FLAT SPLIT LITTLE|HAND-CLAW
1D867 SIGNWRITING HAND-CLAW |THUMB SIDE|NO THUMB|THUMB FORWARD
1D86A SIGNWRITING |HAND-HOOK CURLICUE|HAND-HOOK|HAND-CUP OPEN|HAND-CUP
1D86E SIGNWRITING HAND-CUP |OPEN THUMB SIDE|THUMB SIDE|OPEN NO THUMB|NO THUMB|OPEN THUMB FORWARD
1D873 SIGNWRITING |HAND-CUP THUMB FORWARD|HAND-CURLICUE OPEN|HAND-CURLICUE|HAND-CIRCLE|HAND-OVAL
1D878 SIGNWRITING HAND-OVAL |THUMB SIDE|NO THUMB|THUMB FORWARD
1D87B SIGNWRITING |HAND-HINGE OPEN|HAND-HINGE OPEN THUMB FORWARD|HAND-HINGE
1D87E SIGNWRITING HAND-HINGE |SMALL|OPEN THUMB SIDE|THUMB SIDE|OPEN NO THUMB|NO THUMB
1D883 SIGNWRITING HAND-HINGE THUMB |SIDE TOUCHING INDEX|BETWEEN MIDDLE RING
1D885 SIGNWRITING |HAND-ANGLE|HAND-FIST INDEX MIDDLE RING|HAND-CIRCLE INDEX MIDDLE RING
1D888 SIGNWRITING |HAND-HINGE INDEX MIDDLE RING|HAND-ANGLE INDEX MIDDLE RING|HAND-HINGE LITTLE
1D88B SIGNWRITING HAND-FIST INDEX MIDDLE RING |BENT|CONJOINED
1D88D |SIGNWRITING HAND-HINGE INDEX MIDDLE RING CONJOINED
1D88E SIGNWRITING HAND-FIST LITTLE |DOWN|DOWN RIPPLE STRAIGHT|DOWN RIPPLE CURVED|DOWN OTHERS CIRCLED
1D892 SIGNWRITING HAND-FIST |LITTLE UP|THUMB UNDER LITTLE UP
1D894 SIGNWRITING |HAND-CIRCLE LITTLE UP|HAND-OVAL LITTLE UP|HAND-ANGLE LITTLE UP
1D897 SIGNWRITING HAND-FIST LITTLE |RAISED KNUCKLE|BENT|TOUCHES THUMB|THUMB
1D89B |SIGNWRITING HAND-HINGE LITTLE THUMB
1D89C SIGNWRITING |HAND-FIST LITTLE INDEX THUMB|HAND-HINGE LITTLE INDEX THUMB
1D89E SIGNWRITING HAND-ANGLE LITTLE INDEX THUMB INDEX |THUMB OUT|THUMB
1D8A0 |SIGNWRITING HAND-FIST LITTLE INDEX
1D8A1 SIGNWRITING |HAND-CIRCLE LITTLE INDEX|HAND-HINGE LITTLE INDEX|HAND-ANGLE LITTLE INDEX
1D8A4 SIGNWRITING |HAND-FIST INDEX MIDDLE LITTLE|HAND-CIRCLE INDEX MIDDLE LITTLE
1D8A6 SIGNWRITING |HAND-HINGE INDEX MIDDLE LITTLE|HAND-HINGE RING|HAND-ANGLE INDEX MIDDLE LITTLE
1D8A9 SIGNWRITING |HAND-FIST INDEX MIDDLE CROSS LITTLE|HAND-CIRCLE INDEX MIDDLE CROSS LITTLE
1D8AB SIGNWRITING |HAND-FIST RING DOWN|HAND-HINGE RING DOWN INDEX THUMB HOOK MIDDLE
1D8AD |SIGNWRITING HAND-ANGLE RING DOWN MIDDLE THUMB INDEX CROSS
1D8AE SIGNWRITING HAND-FIST RING |UP|RAISED KNUCKLE|LITTLE
1D8B1 SIGNWRITING |HAND-CIRCLE RING LITTLE|HAND-OVAL RING LITTLE|HAND-ANGLE RING LITTLE
1D8B4 SIGNWRITING HAND-FIST RING |MIDDLE|MIDDLE CONJOINED|MIDDLE RAISED KNUCKLES|INDEX|THUMB
1D8B9 SIGNWRITING |HAND-HOOK RING THUMB|HAND-FIST INDEX RING LITTLE
1D8BB SIGNWRITING |HAND-CIRCLE INDEX RING LITTLE|HAND-CURLICUE INDEX RING LITTLE ON
1D8BD SIGNWRITING HAND-HOOK INDEX RING LITTLE |OUT|IN|UNDER
1D8C0 SIGNWRITING |HAND-CUP INDEX RING LITTLE|HAND-HINGE INDEX RING LITTLE
1D8C2 SIGNWRITING HAND-ANGLE INDEX RING |LITTLE OUT|LITTLE
1D8C4 SIGNWRITING |HAND-FIST MIDDLE DOWN|HAND-HINGE MIDDLE|HAND-FIST MIDDLE UP|HAND-CIRCLE MIDDLE UP
1D8C8 SIGNWRITING HAND-FIST MIDDLE |RAISED KNUCKLE|UP THUMB SIDE
1D8CA |SIGNWRITING HAND-HOOK MIDDLE THUMB
1D8CB SIGNWRITING HAND-FIST MIDDLE |THUMB LITTLE|LITTLE|RING LITTLE
1D8CE SIGNWRITING |HAND-CIRCLE MIDDLE RING LITTLE|HAND-CURLICUE MIDDLE RING LITTLE ON
1D8D0 SIGNWRITING |HAND-CUP MIDDLE RING LITTLE|HAND-HINGE MIDDLE RING LITTLE
1D8D2 SIGNWRITING HAND-ANGLE MIDDLE RING |LITTLE OUT|LITTLE IN|LITTLE
1D8D5 |SIGNWRITING HAND-CIRCLE MIDDLE RING LITTLE BENT
1D8D6 SIGNWRITING HAND-CLAW MIDDLE RING LITTLE |CONJOINED|CONJOINED SIDE
1D8D8 SIGNWRITING HAND-HOOK MIDDLE RING LITTLE |CONJOINED OUT|CONJOINED IN|CONJOINED
1D8DB SIGNWRITING |HAND-HINGE INDEX HINGED|HAND-FIST INDEX THUMB SIDE|HAND-HINGE INDEX THUMB SIDE
1D8DE SIGNWRITING HAND-FIST INDEX THUMB SIDE |THUMB DIAGONAL|THUMB CONJOINED|THUMB BENT|INDEX BENT
1D8E2 SIGNWRITING HAND-FIST INDEX THUMB |SIDE BOTH BENT|SIDE INDEX HINGE|FORWARD INDEX STRAIGHT
1D8E5 SIGNWRITING HAND-FIST INDEX THUMB |FORWARD INDEX BENT|HOOK|CURLICUE|CURVE THUMB INSIDE
1D8E9 |SIGNWRITING HAND-CLAW INDEX THUMB CURVE THUMB INSIDE
1D8EA SIGNWRITING HAND-FIST INDEX THUMB |CURVE THUMB UNDER|CIRCLE
1D8EC SIGNWRITING HAND-CUP INDEX |THUMB|THUMB OPEN
1D8EE SIGNWRITING HAND-HINGE INDEX |THUMB OPEN|THUMB LARGE|THUMB|THUMB SMALL
1D8F2 SIGNWRITING HAND-ANGLE INDEX |THUMB OUT|THUMB IN|THUMB
1D8F5 SIGNWRITING HAND-FIST |THUMB|THUMB HEEL|THUMB SIDE DIAGONAL|THUMB SIDE CONJOINED
1D8F9 SIGNWRITING HAND-FIST THUMB |SIDE BENT|FORWARD|BETWEEN INDEX MIDDLE|BETWEEN MIDDLE RING
1D8FD SIGNWRITING HAND-FIST THUMB |BETWEEN RING LITTLE|UNDER TWO FINGERS|OVER TWO FINGERS
1D900 SIGNWRITING HAND-FIST THUMB |UNDER THREE FINGERS|UNDER FOUR FINGERS|OVER FOUR RAISED KNUCKLES
1D903 SIGNWRITING |HAND-FIST|HAND-FIST HEEL|TOUCH SINGLE|TOUCH MULTIPLE|TOUCH BETWEEN
1D908 SIGNWRITING GRASP |SINGLE|MULTIPLE|BETWEEN
1D90B SIGNWRITING STRIKE |SINGLE|MULTIPLE|BETWEEN
1D90E SIGNWRITING BRUSH |SINGLE|MULTIPLE|BETWEEN
1D911 SIGNWRITING |RUB SINGLE|RUB MULTIPLE|RUB BETWEEN|SURFACE SYMBOLS|SURFACE BETWEEN
1D916 SIGNWRITING SQUEEZE |LARGE SINGLE|SMALL SINGLE|LARGE MULTIPLE|SMALL MULTIPLE|SEQUENTIAL
1D91B SIGNWRITING FLICK |LARGE SINGLE|SMALL SINGLE|LARGE MULTIPLE|SMALL MULTIPLE|SEQUENTIAL
1D920 |SIGNWRITING SQUEEZE FLICK ALTERNATING
1D921 SIGNWRITING MOVEMENT-HINGE |UP DOWN LARGE|UP DOWN SMALL|UP SEQUENTIAL|DOWN SEQUENTIAL
1D925 SIGNWRITING MOVEMENT-HINGE UP DOWN ALTERNATING |LARGE|SMALL
1D927 |SIGNWRITING MOVEMENT-HINGE SIDE TO SIDE SCISSORS
1D928 SIGNWRITING |MOVEMENT-WALLPLANE FINGER CONTACT|MOVEMENT-FLOORPLANE FINGER CONTACT
1D92A SIGNWRITING MOVEMENT-WALLPLANE SINGLE STRAIGHT |SMALL|MEDIUM|LARGE|LARGEST
1D92E |SIGNWRITING MOVEMENT-WALLPLANE SINGLE WRIST FLEX
1D92F SIGNWRITING MOVEMENT-WALLPLANE DOUBLE |STRAIGHT|WRIST FLEX|ALTERNATING|ALTERNATING WRIST FLEX
1D933 SIGNWRITING MOVEMENT-WALLPLANE |CROSS|TRIPLE STRAIGHT MOVEMENT
1D935 SIGNWRITING MOVEMENT-WALLPLANE TRIPLE |WRIST FLEX|ALTERNATING|ALTERNATING WRIST FLEX
1D938 SIGNWRITING MOVEMENT-WALLPLANE BEND |SMALL|MEDIUM|LARGE
1D93B SIGNWRITING MOVEMENT-WALLPLANE CORNER |SMALL|MEDIUM|LARGE|ROTATION
1D93F SIGNWRITING MOVEMENT-WALLPLANE CHECK |SMALL|MEDIUM|LARGE
1D942 SIGNWRITING MOVEMENT-WALLPLANE |BOX SMALL|BOX MEDIUM|BOX LARGE|ZIGZAG SMALL|ZIGZAG MEDIUM
1D947 SIGNWRITING MOVEMENT-WALLPLANE |ZIGZAG LARGE|PEAKS SMALL|PEAKS MEDIUM|PEAKS LARGE
1D94B SIGNWRITING TRAVEL-WALLPLANE ROTATION-WALLPLANE |SINGLE|DOUBLE|ALTERNATING
1D94E SIGNWRITING TRAVEL-WALLPLANE ROTATION-FLOORPLANE |SINGLE|DOUBLE|ALTERNATING
1D951 SIGNWRITING TRAVEL-WALLPLANE |SHAKING|ARM SPIRAL SINGLE|ARM SPIRAL DOUBLE|ARM SPIRAL TRIPLE
1D955 SIGNWRITING MOVEMENT-DIAGONAL AWAY |SMALL|MEDIUM|LARGE|LARGEST
1D959 SIGNWRITING MOVEMENT-DIAGONAL TOWARDS |SMALL|MEDIUM|LARGE|LARGEST
1D95D SIGNWRITING MOVEMENT-DIAGONAL BETWEEN AWAY |SMALL|MEDIUM|LARGE|LARGEST
1D961 SIGNWRITING MOVEMENT-DIAGONAL BETWEEN TOWARDS |SMALL|MEDIUM|LARGE|LARGEST
1D965 SIGNWRITING MOVEMENT-FLOORPLANE SINGLE STRAIGHT |SMALL|MEDIUM|LARGE|LARGEST
1D969 |SIGNWRITING MOVEMENT-FLOORPLANE SINGLE WRIST FLEX
1D96A SIGNWRITING MOVEMENT-FLOORPLANE DOUBLE |STRAIGHT|WRIST FLEX|ALTERNATING|ALTERNATING WRIST FLEX
1D96E SIGNWRITING MOVEMENT-FLOORPLANE |CROSS|TRIPLE STRAIGHT MOVEMENT|TRIPLE WRIST FLEX
1D971 SIGNWRITING MOVEMENT-FLOORPLANE TRIPLE ALTERNATING |MOVEMENT|WRIST FLEX
1D973 SIGNWRITING MOVEMENT-FLOORPLANE |BEND|CORNER SMALL|CORNER MEDIUM|CORNER LARGE|CHECK|BOX SMALL
1D979 SIGNWRITING MOVEMENT-FLOORPLANE |BOX MEDIUM|BOX LARGE|ZIGZAG SMALL|ZIGZAG MEDIUM|ZIGZAG LARGE
1D97E SIGNWRITING MOVEMENT-FLOORPLANE PEAKS |SMALL|MEDIUM|LARGE
1D981 SIGNWRITING TRAVEL-FLOORPLANE ROTATION-FLOORPLANE |SINGLE|DOUBLE|ALTERNATING
1D984 SIGNWRITING TRAVEL-FLOORPLANE ROTATION-WALLPLANE |SINGLE|DOUBLE|ALTERNATING
1D987 |SIGNWRITING TRAVEL-FLOORPLANE SHAKING
1D988 SIGNWRITING MOVEMENT-WALLPLANE CURVE QUARTER |SMALL|MEDIUM|LARGE|LARGEST
1D98C SIGNWRITING MOVEMENT-WALLPLANE CURVE HALF-CIRCLE |SMALL|MEDIUM|LARGE|LARGEST
1D990 SIGNWRITING MOVEMENT-WALLPLANE CURVE THREE-QUARTER CIRCLE |SMALL|MEDIUM
1D992 SIGNWRITING MOVEMENT-WALLPLANE HUMP |SMALL|MEDIUM|LARGE
1D995 SIGNWRITING MOVEMENT-WALLPLANE LOOP |SMALL|MEDIUM|LARGE|SMALL DOUBLE
1D999 SIGNWRITING MOVEMENT-WALLPLANE WAVE CURVE DOUBLE |SMALL|MEDIUM|LARGE
1D99C SIGNWRITING MOVEMENT-WALLPLANE WAVE CURVE TRIPLE |SMALL|MEDIUM|LARGE
1D99F SIGNWRITING MOVEMENT-WALLPLANE |CURVE THEN STRAIGHT|CURVED CROSS SMALL|CURVED CROSS MEDIUM
1D9A2 SIGNWRITING ROTATION-WALLPLANE |SINGLE|DOUBLE|ALTERNATE
1D9A5 SIGNWRITING MOVEMENT-WALLPLANE |SHAKING|CURVE HITTING FRONT WALL|HUMP HITTING FRONT WALL
1D9A8 SIGNWRITING MOVEMENT-WALLPLANE |LOOP HITTING FRONT WALL|WAVE HITTING FRONT WALL
1D9AA |SIGNWRITING ROTATION-WALLPLANE SINGLE HITTING FRONT WALL
1D9AB SIGNWRITING ROTATION-WALLPLANE |DOUBLE HITTING FRONT WALL|ALTERNATING HITTING FRONT WALL
1D9AD SIGNWRITING MOVEMENT-WALLPLANE |CURVE HITTING CHEST|HUMP HITTING CHEST|LOOP HITTING CHEST
1D9B0 SIGNWRITING |MOVEMENT-WALLPLANE WAVE HITTING CHEST|ROTATION-WALLPLANE SINGLE HITTING CHEST
1D9B2 SIGNWRITING ROTATION-WALLPLANE |DOUBLE HITTING CHEST|ALTERNATING HITTING CHEST
1D9B4 SIGNWRITING MOVEMENT-WALLPLANE WAVE DIAGONAL PATH |SMALL|MEDIUM|LARGE
1D9B7 SIGNWRITING MOVEMENT-FLOORPLANE CURVE HITTING CEILING |SMALL|LARGE
1D9B9 |SIGNWRITING MOVEMENT-FLOORPLANE HUMP HITTING CEILING SMALL DOUBLE
1D9BA SIGNWRITING MOVEMENT-FLOORPLANE HUMP HITTING CEILING |LARGE DOUBLE|SMALL TRIPLE|LARGE TRIPLE
1D9BD |SIGNWRITING MOVEMENT-FLOORPLANE LOOP HITTING CEILING SMALL SINGLE
1D9BE SIGNWRITING MOVEMENT-FLOORPLANE LOOP HITTING CEILING |LARGE SINGLE|SMALL DOUBLE|LARGE DOUBLE
1D9C1 SIGNWRITING MOVEMENT-FLOORPLANE WAVE HITTING CEILING |SMALL|LARGE
1D9C3 |SIGNWRITING ROTATION-FLOORPLANE SINGLE HITTING CEILING
1D9C4 SIGNWRITING ROTATION-FLOORPLANE |DOUBLE HITTING CEILING|ALTERNATING HITTING CEILING
1D9C6 SIGNWRITING MOVEMENT-FLOORPLANE CURVE HITTING FLOOR |SMALL|LARGE
1D9C8 SIGNWRITING MOVEMENT-FLOORPLANE HUMP HITTING FLOOR |SMALL DOUBLE|LARGE DOUBLE
1D9CA SIGNWRITING MOVEMENT-FLOORPLANE HUMP HITTING FLOOR TRIPLE |SMALL TRIPLE|LARGE TRIPLE
1D9CC |SIGNWRITING MOVEMENT-FLOORPLANE LOOP HITTING FLOOR SMALL SINGLE
1D9CD SIGNWRITING MOVEMENT-FLOORPLANE LOOP HITTING FLOOR |LARGE SINGLE|SMALL DOUBLE|LARGE DOUBLE
1D9D0 SIGNWRITING MOVEMENT-FLOORPLANE WAVE HITTING FLOOR |SMALL|LARGE
1D9D2 |SIGNWRITING ROTATION-FLOORPLANE SINGLE HITTING FLOOR
1D9D3 SIGNWRITING ROTATION-FLOORPLANE |DOUBLE HITTING FLOOR|ALTERNATING HITTING FLOOR
1D9D5 SIGNWRITING MOVEMENT-FLOORPLANE CURVE |SMALL|MEDIUM|LARGE|LARGEST|COMBINED
1D9DA SIGNWRITING MOVEMENT-FLOORPLANE |HUMP SMALL|LOOP SMALL|WAVE SNAKE|WAVE SMALL|WAVE LARGE
1D9DF SIGNWRITING ROTATION-FLOORPLANE |SINGLE|DOUBLE|ALTERNATING
1D9E2 SIGNWRITING |MOVEMENT-FLOORPLANE SHAKING PARALLEL|MOVEMENT-WALLPLANE ARM CIRCLE SMALL SINGLE
1D9E4 SIGNWRITING MOVEMENT-WALLPLANE ARM CIRCLE |MEDIUM SINGLE|SMALL DOUBLE|MEDIUM DOUBLE
1D9E7 SIGNWRITING MOVEMENT-FLOORPLANE ARM CIRCLE HITTING WALL |SMALL SINGLE|MEDIUM SINGLE
1D9E9 SIGNWRITING MOVEMENT-FLOORPLANE ARM CIRCLE HITTING WALL |LARGE SINGLE|SMALL DOUBLE
1D9EB SIGNWRITING MOVEMENT-FLOORPLANE ARM CIRCLE HITTING WALL |MEDIUM DOUBLE|LARGE DOUBLE
1D9ED SIGNWRITING MOVEMENT-WALLPLANE WRIST CIRCLE FRONT |SINGLE|DOUBLE
1D9EF SIGNWRITING MOVEMENT-FLOORPLANE WRIST CIRCLE HITTING WALL |SINGLE|DOUBLE
1D9F1 SIGNWRITING MOVEMENT-WALLPLANE FINGER CIRCLES |SINGLE|DOUBLE
1D9F3 SIGNWRITING MOVEMENT-FLOORPLANE FINGER CIRCLES HITTING WALL |SINGLE|DOUBLE
1D9F5 SIGNWRITING DYNAMIC |ARROWHEAD SMALL|ARROWHEAD LARGE|FAST|SLOW|TENSE
1D9FA SIGNWRITING DYNAMIC |RELAXED|SIMULTANEOUS|SIMULTANEOUS ALTERNATING|EVERY OTHER TIME|GRADUAL
1D9FF SIGNWRITING |HEAD|HEAD RIM
1DA01 SIGNWRITING HEAD MOVEMENT-WALLPLANE |STRAIGHT|TILT
1DA03 |SIGNWRITING HEAD MOVEMENT-FLOORPLANE STRAIGHT
1DA04 SIGNWRITING HEAD |MOVEMENT-WALLPLANE CURVE|MOVEMENT-FLOORPLANE CURVE|MOVEMENT CIRCLE
1DA07 SIGNWRITING FACE DIRECTION POSITION NOSE |FORWARD TILTING|UP OR DOWN|UP OR DOWN TILTING
1DA0A SIGNWRITING EYEBROWS STRAIGHT |UP|NEUTRAL|DOWN
1DA0D SIGNWRITING DREAMY EYEBROWS |NEUTRAL DOWN|DOWN NEUTRAL|UP NEUTRAL|NEUTRAL UP
1DA11 SIGNWRITING FOREHEAD |NEUTRAL|CONTACT|WRINKLED
1DA14 SIGNWRITING EYES |OPEN|SQUEEZED|CLOSED
1DA17 SIGNWRITING EYE BLINK |SINGLE|MULTIPLE
1DA19 SIGNWRITING |EYES HALF OPEN|EYES WIDE OPEN|EYES HALF CLOSED|EYES WIDENING MOVEMENT|EYE WINK
1DA1E SIGNWRITING EYELASHES |UP|DOWN|FLUTTERING
1DA21 SIGNWRITING EYEGAZE-WALLPLANE |STRAIGHT|STRAIGHT DOUBLE|STRAIGHT ALTERNATING
1DA24 SIGNWRITING EYEGAZE-FLOORPLANE |STRAIGHT|STRAIGHT DOUBLE|STRAIGHT ALTERNATING
1DA27 SIGNWRITING |EYEGAZE-WALLPLANE CURVED|EYEGAZE-FLOORPLANE CURVED|EYEGAZE-WALLPLANE CIRCLING
1DA2A SIGNWRITING CHEEKS |PUFFED|NEUTRAL|SUCKED
1DA2D SIGNWRITING TENSE CHEEKS |HIGH|MIDDLE|LOW
1DA30 SIGNWRITING |EARS|NOSE NEUTRAL|NOSE CONTACT|NOSE WRINKLES|NOSE WIGGLES
1DA35 SIGNWRITING AIR |BLOWING OUT|SUCKING IN|BLOW SMALL ROTATIONS|SUCK SMALL ROTATIONS
1DA39 SIGNWRITING BREATH |INHALE|EXHALE
1DA3B SIGNWRITING MOUTH CLOSED |NEUTRAL|FORWARD|CONTACT
1DA3E SIGNWRITING MOUTH |SMILE|SMILE WRINKLED|SMILE OPEN|FROWN|FROWN WRINKLED|FROWN OPEN
1DA44 SIGNWRITING MOUTH OPEN |CIRCLE|FORWARD|WRINKLED|OVAL|OVAL WRINKLED|OVAL YAWN|RECTANGLE
1DA4B SIGNWRITING MOUTH OPEN RECTANGLE |WRINKLED|YAWN
1DA4D SIGNWRITING MOUTH |KISS|KISS FORWARD|KISS WRINKLED|TENSE|TENSE FORWARD|TENSE SUCKED
1DA53 SIGNWRITING |LIPS PRESSED TOGETHER|LIP LOWER OVER UPPER|LIP UPPER OVER LOWER|MOUTH CORNERS
1DA57 SIGNWRITING MOUTH WRINKLES |SINGLE|DOUBLE
1DA59 SIGNWRITING TONGUE |STICKING OUT FAR|LICKING LIPS|TIP BETWEEN LIPS|TIP TOUCHING INSIDE MOUTH
1DA5D SIGNWRITING TONGUE |INSIDE MOUTH RELAXED|MOVES AGAINST CHEEK|CENTRE STICKING OUT
1DA60 SIGNWRITING |TONGUE CENTRE INSIDE MOUTH|TEETH
1DA62 SIGNWRITING TEETH |MOVEMENT|ON TONGUE|ON TONGUE MOVEMENT|ON LIPS|ON LIPS MOVEMENT|BITE LIPS
1DA68 SIGNWRITING |MOVEMENT-WALLPLANE JAW|MOVEMENT-FLOORPLANE JAW|NECK|HAIR
1DA6C SIGNWRITING |EXCITEMENT|SHOULDER HIP SPINE|SHOULDER HIP POSITIONS|WALLPLANE SHOULDER HIP MOVE
1DA70 SIGNWRITING |FLOORPLANE SHOULDER HIP MOVE|SHOULDER TILTING FROM WAIST
1DA72 SIGNWRITING TORSO-WALLPLANE |STRAIGHT STRETCH|CURVED BEND
1DA74 SIGNWRITING |TORSO-FLOORPLANE TWISTING|UPPER BODY TILTING FROM HIP JOINTS
1DA76 SIGNWRITING LIMB |COMBINATION|LENGTH-1|LENGTH-2|LENGTH-3|LENGTH-4|LENGTH-5|LENGTH-6|LENGTH-7
1DA7E SIGNWRITING |FINGER|LOCATION-WALLPLANE SPACE|LOCATION-FLOORPLANE SPACE
1DA81 SIGNWRITING LOCATION |HEIGHT|WIDTH|DEPTH|HEAD NECK|TORSO|LIMBS DIGITS
1DA87 SIGNWRITING |COMMA|FULL STOP|SEMICOLON|COLON|PARENTHESIS
1DA9B SIGNWRITING FILL |MODIFIER-2|MODIFIER-3|MODIFIER-4|MODIFIER-5|MODIFIER-6
1DAA1 SIGNWRITING ROTATION |MODIFIER-2|MODIFIER-3|MODIFIER-4
1DAA4 SIGNWRITING ROTATION |MODIFIER-5|MODIFIER-6|MODIFIER-7|MODIFIER-8|MODIFIER-9|MODIFIER-10
1DAAA SIGNWRITING ROTATION |MODIFIER-11|MODIFIER-12|MODIFIER-13|MODIFIER-14|MODIFIER-15|MODIFIER-16
1DF00 LATIN SMALL LETTER |FENG DIGRAPH WITH TRILL|REVERSED SCRIPT G
1DF02 LATIN |LETTER SMALL CAPITAL TURNED G|SMALL LETTER REVERSED K|LETTER SMALL CAPITAL L WITH BELT
1DF05 LATIN SMALL LETTER |LEZH WITH RETROFLEX HOOK|TURNED Y WITH BELT|REVERSED ENG
1DF08 LATIN SMALL LETTER |TURNED R WITH LONG LEG AND RETROFLEX HOOK|T WITH HOOK AND RETROFLEX HOOK
1DF0A |LATIN LETTER RETROFLEX CLICK WITH RETROFLEX HOOK
1DF0B LATIN SMALL LETTER |ESH WITH DOUBLE BAR|ESH WITH DOUBLE BAR AND CURL|TURNED T WITH CURL
1DF0E LATIN LETTER |INVERTED GLOTTAL STOP WITH CURL|STRETCHED C WITH CURL|SMALL CAPITAL TURNED K
1DF11 |LATIN SMALL LETTER L WITH FISHHOOK
1DF12 LATIN SMALL LETTER |DEZH DIGRAPH WITH PALATAL HOOK|L WITH BELT AND PALATAL HOOK
1DF14 LATIN SMALL LETTER |ENG WITH PALATAL HOOK|TURNED R WITH PALATAL HOOK
1DF16 LATIN SMALL LETTER |R WITH FISHHOOK AND PALATAL HOOK|TESH DIGRAPH WITH PALATAL HOOK
1DF18 LATIN SMALL LETTER |EZH WITH PALATAL HOOK|DEZH DIGRAPH WITH RETROFLEX HOOK
1DF1A LATIN SMALL LETTER |I WITH STROKE AND RETROFLEX HOOK|O WITH RETROFLEX HOOK
1DF1C LATIN SMALL LETTER |TESH DIGRAPH WITH RETROFLEX HOOK|C WITH RETROFLEX HOOK|S WITH CURL
1E000 COMBINING GLAGOLITIC LETTER |AZU|BUKY|VEDE|GLAGOLI|DOBRO|YESTU|ZHIVETE
1E008 COMBINING GLAGOLITIC LETTER |ZEMLJA|IZHE|INITIAL IZHE|I|DJERVI|KAKO|LJUDIJE
1E00F COMBINING GLAGOLITIC LETTER |MYSLITE|NASHI|ONU|POKOJI|RITSI|SLOVO|TVRIDO|UKU|FRITU|HERU
1E01B COMBINING GLAGOLITIC LETTER |SHTA|TSI|CHRIVI|SHA|YERU|YERI|YATI
1E023 COMBINING GLAGOLITIC LETTER |YU|SMALL YUS
1E026 COMBINING GLAGOLITIC LETTER |YO|IOTATED SMALL YUS|BIG YUS|IOTATED BIG YUS|FITA
1E100 NYIAKENG PUACHUE HMONG LETTER |MA|TSA|NTA|TA|HA|NA|XA
1E107 NYIAKENG PUACHUE HMONG LETTER |NKA|CA|LA|SA|ZA|NCA|NTSA|KA|DA|NYA|NRA|VA|NTXA|TXA|FA|RA|QA|YA
1E119 NYIAKENG PUACHUE HMONG LETTER |NQA|PA|XYA|NPA|DLA|NPLA|HAH|MLA|PLA|GA|RRA|A|AA|I|U|O|OO|E|EE|W
1E130 NYIAKENG PUACHUE HMONG |TONE-B|TONE-M|TONE-J|TONE-V|TONE-S|TONE-G|TONE-D
1E137 NYIAKENG PUACHUE HMONG SIGN FOR |PERSON|THING|LOCATION|ANIMAL|INVERTEBRATE
1E13C NYIAKENG PUACHUE HMONG |SIGN XW XW|SYLLABLE LENGTHENER
1E140 NYIAKENG PUACHUE HMONG DIGIT |ZERO|ONE|TWO|THREE|FOUR|FIVE|SIX|SEVEN|EIGHT|NINE
1E14E NYIAKENG PUACHUE HMONG |LOGOGRAM NYAJ|CIRCLED CA
1E290 TOTO LETTER |PA|BA|TA|DA|KA|GA|MA|NA|NGA|SA|CHA|YA|WA|JA
1E29E TOTO LETTER |HA|RA|LA|I|BREATHY I|IU|BREATHY IU|U|E|BREATHY E|EO|BREATHY EO|O|AE|BREATHY AE|A
1E2AE |TOTO SIGN RISING TONE
1E2C0 WANCHO LETTER |AA|A|BA|CA|DA|GA|YA|PHA|LA|NA|PA|TA|THA|FA|SA|SHA|JA|ZA|WA|VA|KA
1E2D5 WANCHO LETTER |O|AU|RA|MA|KHA|HA|E|I|NGA|U|LLHA|TSA|TRA|ONG|AANG|ANG|ING|ON|EN|AAN|NYA|UEN|YIH
1E2EC WANCHO TONE |TUP|TUPNI|KOI|KOINI
1E2F0 WANCHO DIGIT |ZERO|ONE|TWO|THREE|FOUR|FIVE|SIX|SEVEN|EIGHT|NINE
1E2FF |WANCHO NGUN SIGN
1E7E0 ETHIOPIC SYLLABLE |HHYA|HHYU|HHYI|HHYAA|HHYEE|HHYE|HHYO
1E7E8 ETHIOPIC SYLLABLE |GURAGE HHWA|HHWI|HHWEE|HHWE
1E7ED ETHIOPIC SYLLABLE GURAGE |MWI|MWEE
1E7F0 ETHIOPIC SYLLABLE GURAGE |QWI|QWEE|QWE|BWI|BWEE|KWI|KWEE|KWE|GWI|GWEE|GWE|FWI|FWEE|PWI|PWEE
1E800 MENDE KIKAKUI SYLLABLE |M001 KI|M002 KA|M003 KU|M065 KEE
1E804 MENDE KIKAKUI SYLLABLE |M095 KE|M076 KOO|M048 KO|M179 KUA|M004 WI|M005 WA|M006 WU|M126 WEE
1E80C MENDE KIKAKUI SYLLABLE |M118 WE|M114 WOO|M045 WO|M194 WUI|M143 WEI|M061 WVI|M049 WVA|M139 WVE
1E814 MENDE KIKAKUI SYLLABLE |M007 MIN|M008 MAN|M009 MUN|M059 MEN|M094 MON|M154 MUAN|M189 MUEN
1E81B MENDE KIKAKUI SYLLABLE |M010 BI|M011 BA|M012 BU|M150 BEE|M097 BE|M103 BOO|M138 BO|M013 I
1E823 MENDE KIKAKUI SYLLABLE |M014 A|M015 U|M163 EE|M100 E|M165 OO|M147 O|M137 EI|M131 IN|M135 IN
1E82C MENDE KIKAKUI SYLLABLE |M195 AN|M178 EN|M019 SI|M020 SA|M021 SU|M162 SEE|M116 SE|M136 SOO
1E834 MENDE KIKAKUI SYLLABLE |M079 SO|M196 SIA|M025 LI|M026 LA|M027 LU|M084 LEE|M073 LE|M054 LOO
1E83C MENDE KIKAKUI SYLLABLE |M153 LO|M110 LONG LE|M016 DI|M017 DA|M018 DU|M089 DEE|M180 DOO|M181 DO
1E844 MENDE KIKAKUI SYLLABLE |M022 TI|M023 TA|M024 TU|M091 TEE|M055 TE|M104 TOO|M069 TO|M028 JI
1E84C MENDE KIKAKUI SYLLABLE |M029 JA|M030 JU|M157 JEE|M113 JE|M160 JOO|M063 JO|M175 LONG JO|M031 YI
1E854 MENDE KIKAKUI SYLLABLE |M032 YA|M033 YU|M109 YEE|M080 YE|M141 YOO|M121 YO|M034 FI|M035 FA
1E85C MENDE KIKAKUI SYLLABLE |M036 FU|M078 FEE|M075 FE|M133 FOO|M088 FO|M197 FUA|M101 FAN|M037 NIN
1E864 MENDE KIKAKUI SYLLABLE |M038 NAN|M039 NUN|M117 NEN|M169 NON|M176 HI|M041 HA|M186 HU|M040 HEE
1E86C MENDE KIKAKUI SYLLABLE |M096 HE|M042 HOO|M140 HO|M083 HEEI|M128 HOOU|M053 HIN|M130 HAN
1E873 MENDE KIKAKUI SYLLABLE |M087 HUN|M052 HEN|M193 HON|M046 HUAN|M090 NGGI|M043 NGGA|M082 NGGU
1E87A MENDE KIKAKUI SYLLABLE |M115 NGGEE|M146 NGGE|M156 NGGOO|M120 NGGO|M159 NGGAA|M127 NGGUA
1E880 MENDE KIKAKUI SYLLABLE |M086 LONG NGGE|M106 LONG NGGOO|M183 LONG NGGO|M155 GI|M111 GA
1E885 MENDE KIKAKUI SYLLABLE |M168 GU|M190 GEE|M166 GUEI|M167 GUAN|M184 NGEN|M057 NGON|M177 NGUAN
1E88C MENDE KIKAKUI SYLLABLE |M068 PI|M099 PA|M050 PU|M081 PEE|M051 PE|M102 POO|M066 PO|M145 MBI
1E894 MENDE KIKAKUI SYLLABLE |M062 MBA|M122 MBU|M047 MBEE|M188 MBEE|M072 MBE|M172 MBOO|M174 MBO
1E89B MENDE KIKAKUI SYLLABLE |M187 MBUU|M161 LONG MBE|M105 LONG MBOO|M142 LONG MBO|M132 KPI|M092 KPA
1E8A1 MENDE KIKAKUI SYLLABLE |M074 KPU|M044 KPEE|M108 KPE|M112 KPOO|M158 KPO|M124 GBI|M056 GBA
1E8A8 MENDE KIKAKUI SYLLABLE |M148 GBU|M093 GBEE|M107 GBE|M071 GBOO|M070 GBO|M171 RA|M123 NDI
1E8AF MENDE KIKAKUI SYLLABLE |M129 NDA|M125 NDU|M191 NDEE|M119 NDE|M067 NDOO|M064 NDO|M152 NJA
1E8B6 MENDE KIKAKUI SYLLABLE |M192 NJU|M149 NJEE|M134 NJOO|M182 VI|M185 VA|M151 VU|M173 VEE|M085 VE
1E8BE MENDE KIKAKUI SYLLABLE |M144 VOO|M077 VO|M164 NYIN|M058 NYAN|M170 NYUN|M098 NYEN|M060 NYON
1E8C7 MENDE KIKAKUI DIGIT |ONE|TWO|THREE|FOUR|FIVE|SIX|SEVEN|EIGHT|NINE
1E8D0 MENDE KIKAKUI COMBINING NUMBER |TEENS|TENS
1E8D2 MENDE KIKAKUI COMBINING NUMBER |HUNDREDS|THOUSANDS|TEN THOUSANDS|HUNDRED THOUSANDS|MILLIONS
1E900 ADLAM CAPITAL LETTER |ALIF|DAALI|LAAM|MIIM|BA|SINNYIIYHE|PE|BHE|RA|E|FA|I|O|DHA|YHE
1E90F ADLAM CAPITAL LETTER |WAW|NUN|KAF|YA|U|JIIM|CHI|HA|QAAF|GA|NYA|TU|NHA|VA|KHA|GBE|ZAL|KPO|SHA
1E922 ADLAM SMALL LETTER |ALIF|DAALI|LAAM|MIIM|BA|SINNYIIYHE|PE|BHE|RA|E|FA|I|O|DHA
1E930 ADLAM SMALL LETTER |YHE|WAW|NUN|KAF|YA|U|JIIM|CHI|HA|QAAF|GA|NYA|TU|NHA|VA|KHA|GBE|ZAL|KPO|SHA
1E944 ADLAM |ALIF LENGTHENER|VOWEL LENGTHENER|GEMINATION MARK
1E947 ADLAM |HAMZA|CONSONANT MODIFIER|GEMINATE CONSONANT MODIFIER|NUKTA|NASALIZATION MARK
1E950 ADLAM DIGIT |ZERO|ONE|TWO|THREE|FOUR|FIVE|SIX|SEVEN|EIGHT|NINE
1E95E ADLAM INITIAL |EXCLAMATION MARK|QUESTION MARK
1EC71 INDIC SIYAQ NUMBER |ONE|TWO|THREE|FOUR|FIVE|SIX|SEVEN|EIGHT|NINE|TEN|TWENTY|THIRTY|FORTY
1EC7E INDIC SIYAQ NUMBER |FIFTY|SIXTY|SEVENTY|EIGHTY|NINETY|ONE HUNDRED|TWO HUNDRED|THREE HUNDRED
1EC86 INDIC SIYAQ NUMBER |FOUR HUNDRED|FIVE HUNDRED|SIX HUNDRED|SEVEN HUNDRED|EIGHT HUNDRED
1EC8B INDIC SIYAQ NUMBER |NINE HUNDRED|ONE THOUSAND|TWO THOUSAND|THREE THOUSAND|FOUR THOUSAND
1EC90 INDIC SIYAQ NUMBER |FIVE THOUSAND|SIX THOUSAND|SEVEN THOUSAND|EIGHT THOUSAND|NINE THOUSAND
1EC95 INDIC SIYAQ NUMBER |TEN THOUSAND|TWENTY THOUSAND|THIRTY THOUSAND|FORTY THOUSAND|FIFTY THOUSAND
1EC9A INDIC SIYAQ NUMBER |SIXTY THOUSAND|SEVENTY THOUSAND|EIGHTY THOUSAND|NINETY THOUSAND|LAKH
1EC9F INDIC SIYAQ |NUMBER LAKHAN|LAKH MARK|NUMBER KAROR|NUMBER KARORAN
1ECA3 INDIC SIYAQ NUMBER PREFIXED |ONE|TWO|THREE|FOUR|FIVE|SIX|SEVEN|EIGHT|NINE
1ECAC |INDIC SIYAQ PLACEHOLDER
1ECAD INDIC SIYAQ |FRACTION ONE QUARTER|FRACTION ONE HALF|FRACTION THREE QUARTERS|RUPEE MARK
1ECB1 INDIC SIYAQ NUMBER ALTERNATE |ONE|TWO|TEN THOUSAND
1ECB4 |INDIC SIYAQ ALTERNATE LAKH MARK
1ED01 OTTOMAN SIYAQ NUMBER |ONE|TWO|THREE|FOUR|FIVE|SIX|SEVEN|EIGHT|NINE|TEN|TWENTY|THIRTY|FORTY
1ED0E OTTOMAN SIYAQ NUMBER |FIFTY|SIXTY|SEVENTY|EIGHTY|NINETY|ONE HUNDRED|TWO HUNDRED|THREE HUNDRED
1ED16 OTTOMAN SIYAQ NUMBER |FOUR HUNDRED|FIVE HUNDRED|SIX HUNDRED|SEVEN HUNDRED|EIGHT HUNDRED
1ED1B OTTOMAN SIYAQ NUMBER |NINE HUNDRED|ONE THOUSAND|TWO THOUSAND|THREE THOUSAND|FOUR THOUSAND
1ED20 OTTOMAN SIYAQ NUMBER |FIVE THOUSAND|SIX THOUSAND|SEVEN THOUSAND|EIGHT THOUSAND|NINE THOUSAND
1ED25 OTTOMAN SIYAQ NUMBER |TEN THOUSAND|TWENTY THOUSAND|THIRTY THOUSAND|FORTY THOUSAND
1ED29 OTTOMAN SIYAQ NUMBER |FIFTY THOUSAND|SIXTY THOUSAND|SEVENTY THOUSAND|EIGHTY THOUSAND
1ED2D OTTOMAN SIYAQ |NUMBER NINETY THOUSAND|MARRATAN
1ED2F OTTOMAN SIYAQ ALTERNATE NUMBER |TWO|THREE|FOUR|FIVE|SIX|SEVEN|EIGHT
1ED36 OTTOMAN SIYAQ ALTERNATE NUMBER |NINE|TEN|FOUR HUNDRED|SIX HUNDRED|TWO THOUSAND|TEN THOUSAND
1ED3C OTTOMAN SIYAQ FRACTION ONE |HALF|SIXTH
1EE00 ARABIC MATHEMATICAL |ALEF|BEH|JEEM|DAL
1EE05 ARABIC MATHEMATICAL |WAW|ZAIN|HAH|TAH|YEH|KAF|LAM
1EE0C ARABIC MATHEMATICAL |MEEM|NOON|SEEN|AIN|FEH|SAD|QAF|REH|SHEEN|TEH|THEH|KHAH|THAL|DAD|ZAH|GHAIN
1EE1C ARABIC MATHEMATICAL DOTLESS |BEH|NOON|FEH|QAF
1EE21 ARABIC MATHEMATICAL INITIAL |BEH|JEEM
1EE24 |ARABIC MATHEMATICAL INITIAL HEH
1EE27 |ARABIC MATHEMATICAL INITIAL HAH
1EE29 ARABIC MATHEMATICAL INITIAL |YEH|KAF|LAM|MEEM|NOON|SEEN|AIN|FEH|SAD|QAF
1EE34 ARABIC MATHEMATICAL INITIAL |SHEEN|TEH|THEH|KHAH
1EE39 |ARABIC MATHEMATICAL INITIAL DAD
1EE3B |ARABIC MATHEMATICAL INITIAL GHAIN
1EE42 |ARABIC MATHEMATICAL TAILED JEEM
1EE47 |ARABIC MATHEMATICAL TAILED HAH
1EE49 |ARABIC MATHEMATICAL TAILED YEH
1EE4B |ARABIC MATHEMATICAL TAILED LAM
1EE4D ARABIC MATHEMATICAL TAILED |NOON|SEEN|AIN
1EE51 ARABIC MATHEMATICAL TAILED |SAD|QAF
1EE54 |ARABIC MATHEMATICAL TAILED SHEEN
1EE57 |ARABIC MATHEMATICAL TAILED KHAH
1EE59 |ARABIC MATHEMATICAL TAILED DAD
1EE5B |ARABIC MATHEMATICAL TAILED GHAIN
1EE5D |ARABIC MATHEMATICAL TAILED DOTLESS NOON
1EE5F |ARABIC MATHEMATICAL TAILED DOTLESS QAF
1EE61 ARABIC MATHEMATICAL STRETCHED |BEH|JEEM
1EE64 |ARABIC MATHEMATICAL STRETCHED HEH
1EE67 ARABIC MATHEMATICAL STRETCHED |HAH|TAH|YEH|KAF
1EE6C ARABIC MATHEMATICAL STRETCHED |MEEM|NOON|SEEN|AIN|FEH|SAD|QAF
1EE74 ARABIC MATHEMATICAL STRETCHED |SHEEN|TEH|THEH|KHAH
1EE79 ARABIC MATHEMATICAL STRETCHED |DAD|ZAH|GHAIN|DOTLESS BEH
1EE7E |ARABIC MATHEMATICAL STRETCHED DOTLESS FEH
1EE80 ARABIC MATHEMATICAL LOOPED |ALEF|BEH|JEEM|DAL|HEH|WAW|ZAIN|HAH|TAH|YEH
1EE8B ARABIC MATHEMATICAL LOOPED |LAM|MEEM|NOON
1EE8E ARABIC MATHEMATICAL LOOPED |SEEN|AIN|FEH|SAD|QAF|REH|SHEEN|TEH|THEH|KHAH|THAL|DAD|ZAH|GHAIN
1EEA1 ARABIC MATHEMATICAL DOUBLE-STRUCK |BEH|JEEM|DAL
1EEA5 ARABIC MATHEMATICAL DOUBLE-STRUCK |WAW|ZAIN|HAH|TAH|YEH
1EEAB ARABIC MATHEMATICAL DOUBLE-STRUCK |LAM|MEEM|NOON|SEEN
1EEAF ARABIC MATHEMATICAL DOUBLE-STRUCK |AIN|FEH|SAD|QAF|REH|SHEEN|TEH|THEH|KHAH|THAL|DAD|ZAH|GHAIN
1EEF0 ARABIC MATHEMATICAL OPERATOR |MEEM WITH HAH WITH TATWEEL|HAH WITH DAL
1F000 MAHJONG TILE |EAST WIND|SOUTH WIND|WEST WIND|NORTH WIND|RED DRAGON|GREEN DRAGON|WHITE DRAGON
1F007 MAHJONG TILE |ONE OF CHARACTERS|TWO OF CHARACTERS|THREE OF CHARACTERS|FOUR OF CHARACTERS
1F00B MAHJONG TILE |FIVE OF CHARACTERS|SIX OF CHARACTERS|SEVEN OF CHARACTERS|EIGHT OF CHARACTERS
1F00F MAHJONG TILE |NINE OF CHARACTERS|ONE OF BAMBOOS|TWO OF BAMBOOS|THREE OF BAMBOOS
1F013 MAHJONG TILE |FOUR OF BAMBOOS|FIVE OF BAMBOOS|SIX OF BAMBOOS|SEVEN OF BAMBOOS|EIGHT OF BAMBOOS
1F018 MAHJONG TILE |NINE OF BAMBOOS|ONE OF CIRCLES|TWO OF CIRCLES|THREE OF CIRCLES|FOUR OF CIRCLES
1F01D MAHJONG TILE |FIVE OF CIRCLES|SIX OF CIRCLES|SEVEN OF CIRCLES|EIGHT OF CIRCLES|NINE OF CIRCLES
1F022 MAHJONG TILE |PLUM|ORCHID|BAMBOO|CHRYSANTHEMUM|SPRING|SUMMER|AUTUMN|WINTER|JOKER|BACK
1F030 DOMINO TILE |HORIZONTAL BACK|HORIZONTAL-00-00
1F032 DOMINO TILE |HORIZONTAL-00-01|HORIZONTAL-00-02|HORIZONTAL-00-03|HORIZONTAL-00-04
1F036 DOMINO TILE |HORIZONTAL-00-05|HORIZONTAL-00-06|HORIZONTAL-01-00|HORIZONTAL-01-01
1F03A DOMINO TILE |HORIZONTAL-01-02|HORIZONTAL-01-03|HORIZONTAL-01-04|HORIZONTAL-01-05
1F03E DOMINO TILE |HORIZONTAL-01-06|HORIZONTAL-02-00|HORIZONTAL-02-01|HORIZONTAL-02-02
1F042 DOMINO TILE |HORIZONTAL-02-03|HORIZONTAL-02-04|HORIZONTAL-02-05|HORIZONTAL-02-06
1F046 DOMINO TILE |HORIZONTAL-03-00|HORIZONTAL-03-01|HORIZONTAL-03-02|HORIZONTAL-03-03
1F04A DOMINO TILE |HORIZONTAL-03-04|HORIZONTAL-03-05|HORIZONTAL-03-06|HORIZONTAL-04-00
1F04E DOMINO TILE |HORIZONTAL-04-01|HORIZONTAL-04-02|HORIZONTAL-04-03|HORIZONTAL-04-04
1F052 DOMINO TILE |HORIZONTAL-04-05|HORIZONTAL-04-06|HORIZONTAL-05-00|HORIZONTAL-05-01
1F056 DOMINO TILE |HORIZONTAL-05-02|HORIZONTAL-05-03|HORIZONTAL-05-04|HORIZONTAL-05-05
1F05A DOMINO TILE |HORIZONTAL-05-06|HORIZONTAL-06-00|HORIZONTAL-06-01|HORIZONTAL-06-02
1F05E DOMINO TILE |HORIZONTAL-06-03|HORIZONTAL-06-04|HORIZONTAL-06-05|HORIZONTAL-06-06
1F062 DOMINO TILE |VERTICAL BACK|VERTICAL-00-00|VERTICAL-00-01|VERTICAL-00-02|VERTICAL-00-03
1F067 DOMINO TILE |VERTICAL-00-04|VERTICAL-00-05|VERTICAL-00-06|VERTICAL-01-00|VERTICAL-01-01
1F06C DOMINO TILE |VERTICAL-01-02|VERTICAL-01-03|VERTICAL-01-04|VERTICAL-01-05|VERTICAL-01-06
1F071 DOMINO TILE |VERTICAL-02-00|VERTICAL-02-01|VERTICAL-02-02|VERTICAL-02-03|VERTICAL-02-04
1F076 DOMINO TILE |VERTICAL-02-05|VERTICAL-02-06|VERTICAL-03-00|VERTICAL-03-01|VERTICAL-03-02
1F07B DOMINO TILE |VERTICAL-03-03|VERTICAL-03-04|VERTICAL-03-05|VERTICAL-03-06|VERTICAL-04-00
1F080 DOMINO TILE |VERTICAL-04-01|VERTICAL-04-02|VERTICAL-04-03|VERTICAL-04-04|VERTICAL-04-05
1F085 DOMINO TILE |VERTICAL-04-06|VERTICAL-05-00|VERTICAL-05-01|VERTICAL-05-02|VERTICAL-05-03
1F08A DOMINO TILE |VERTICAL-05-04|VERTICAL-05-05|VERTICAL-05-06|VERTICAL-06-00|VERTICAL-06-01
1F08F DOMINO TILE |VERTICAL-06-02|VERTICAL-06-03|VERTICAL-06-04|VERTICAL-06-05|VERTICAL-06-06
1F0A0 PLAYING CARD |BACK|ACE OF SPADES|TWO OF SPADES|THREE OF SPADES|FOUR OF SPADES
1F0A5 PLAYING CARD |FIVE OF SPADES|SIX OF SPADES|SEVEN OF SPADES|EIGHT OF SPADES|NINE OF SPADES
1F0AA PLAYING CARD |TEN OF SPADES|JACK OF SPADES|KNIGHT OF SPADES|QUEEN OF SPADES|KING OF SPADES
1F0B1 PLAYING CARD |ACE OF HEARTS|TWO OF HEARTS|THREE OF HEARTS|FOUR OF HEARTS|FIVE OF HEARTS
1F0B6 PLAYING CARD |SIX OF HEARTS|SEVEN OF HEARTS|EIGHT OF HEARTS|NINE OF HEARTS|TEN OF HEARTS
1F0BB PLAYING CARD |JACK OF HEARTS|KNIGHT OF HEARTS|QUEEN OF HEARTS|KING OF HEARTS|RED JOKER
1F0C1 PLAYING CARD |ACE OF DIAMONDS|TWO OF DIAMONDS|THREE OF DIAMONDS
1F0C4 PLAYING CARD |FOUR OF DIAMONDS|FIVE OF DIAMONDS|SIX OF DIAMONDS|SEVEN OF DIAMONDS
1F0C8 PLAYING CARD |EIGHT OF DIAMONDS|NINE OF DIAMONDS|TEN OF DIAMONDS|JACK OF DIAMONDS
1F0CC PLAYING CARD |KNIGHT OF DIAMONDS|QUEEN OF DIAMONDS|KING OF DIAMONDS|BLACK JOKER
1F0D1 PLAYING CARD |ACE OF CLUBS|TWO OF CLUBS
1F0D3 PLAYING CARD |THREE OF CLUBS|FOUR OF CLUBS|FIVE OF CLUBS|SIX OF CLUBS|SEVEN OF CLUBS
1F0D8 PLAYING CARD |EIGHT OF CLUBS|NINE OF CLUBS|TEN OF CLUBS|JACK OF CLUBS|KNIGHT OF CLUBS
1F0DD PLAYING CARD |QUEEN OF CLUBS|KING OF CLUBS|WHITE JOKER|FOOL|TRUMP-1|TRUMP-2|TRUMP-3
1F0E4 PLAYING CARD |TRUMP-4|TRUMP-5|TRUMP-6|TRUMP-7|TRUMP-8|TRUMP-9|TRUMP-10|TRUMP-11|TRUMP-12
1F0ED PLAYING CARD |TRUMP-13|TRUMP-14|TRUMP-15|TRUMP-16|TRUMP-17|TRUMP-18|TRUMP-19|TRUMP-20|TRUMP-21
1F100 DIGIT |ZERO FULL STOP|ZERO COMMA|ONE COMMA|TWO COMMA
1F104 DIGIT |THREE COMMA|FOUR COMMA|FIVE COMMA|SIX COMMA|SEVEN COMMA|EIGHT COMMA|NINE COMMA
1F10B DINGBAT |CIRCLED SANS-SERIF DIGIT ZERO|NEGATIVE CIRCLED SANS-SERIF DIGIT ZERO
1F10D CIRCLED |ZERO WITH SLASH|ANTICLOCKWISE ARROW|DOLLAR SIGN WITH OVERLAID BACKSLASH
1F110 PARENTHESIZED LATIN CAPITAL LETTER |A|B|C|D|E|F|G|H|I|J|K|L|M|N|O|P|Q|R|S|T|U|V|W|X|Y|Z
1F12A |TORTOISE SHELL BRACKETED LATIN CAPITAL LETTER S
1F12B CIRCLED ITALIC LATIN CAPITAL LETTER |C|R
1F12D CIRCLED |CD|WZ
1F12F |COPYLEFT SYMBOL
1F130 SQUARED LATIN CAPITAL LETTER |A|B|C|D|E|F|G|H|I|J|K|L|M|N|O|P|Q|R|S|T|U|V|W|X|Y|Z
1F14A SQUARED |HV|MV|SD|SS|PPV|WC
1F150 NEGATIVE CIRCLED LATIN CAPITAL LETTER |A|B|C|D|E|F|G|H|I|J|K|L|M|N|O|P|Q|R|S|T|U|V|W|X|Y|Z
1F16A RAISED |MC SIGN|MD SIGN|MR SIGN
1F16D CIRCLED |CC|C WITH OVERLAID BACKSLASH|HUMAN FIGURE
1F170 NEGATIVE SQUARED LATIN CAPITAL LETTER |A|B|C|D|E|F|G|H|I|J|K|L|M|N|O|P|Q|R|S|T|U|V|W|X|Y|Z
1F18A |CROSSED NEGATIVE SQUARED LATIN CAPITAL LETTER P
1F18B NEGATIVE SQUARED |IC|PA|SA|AB|WC
1F190 |SQUARE DJ
1F191 SQUARED |CL|COOL|FREE|ID|NEW|NG|OK|SOS|UP WITH EXCLAMATION MARK|VS|THREE D|SECOND SCREEN
1F19D SQUARED |TWO K|FOUR K|EIGHT K|FIVE POINT ONE|SEVEN POINT ONE|TWENTY-TWO POINT TWO
1F1A3 SQUARED |SIXTY P|ONE HUNDRED TWENTY P|LATIN SMALL LETTER D|HC|HDR|HI-RES|LOSSLESS|SHV|UHD|VOD
1F1AD |MASK WORK SYMBOL
1F1E6 REGIONAL INDICATOR SYMBOL LETTER |A|B|C|D|E|F|G|H|I|J|K|L|M|N|O|P|Q|R|S|T|U|V|W|X|Y|Z
1F200 |SQUARE HIRAGANA HOKA
1F201 SQUARED KATAKANA |KOKO|SA
1F210 SQUARED CJK UNIFIED |IDEOGRAPH-624B|IDEOGRAPH-5B57|IDEOGRAPH-53CC
1F213 |SQUARED KATAKANA DE
1F214 SQUARED CJK UNIFIED |IDEOGRAPH-4E8C|IDEOGRAPH-591A|IDEOGRAPH-89E3|IDEOGRAPH-5929
1F218 SQUARED CJK UNIFIED |IDEOGRAPH-4EA4|IDEOGRAPH-6620|IDEOGRAPH-7121|IDEOGRAPH-6599
1F21C SQUARED CJK UNIFIED |IDEOGRAPH-524D|IDEOGRAPH-5F8C|IDEOGRAPH-518D|IDEOGRAPH-65B0
1F220 SQUARED CJK UNIFIED |IDEOGRAPH-521D|IDEOGRAPH-7D42|IDEOGRAPH-751F|IDEOGRAPH-8CA9
1F224 SQUARED CJK UNIFIED |IDEOGRAPH-58F0|IDEOGRAPH-5439|IDEOGRAPH-6F14|IDEOGRAPH-6295
1F228 SQUARED CJK UNIFIED |IDEOGRAPH-6355|IDEOGRAPH-4E00|IDEOGRAPH-4E09|IDEOGRAPH-904A
1F22C SQUARED CJK UNIFIED |IDEOGRAPH-5DE6|IDEOGRAPH-4E2D|IDEOGRAPH-53F3|IDEOGRAPH-6307
1F230 SQUARED CJK UNIFIED |IDEOGRAPH-8D70|IDEOGRAPH-6253|IDEOGRAPH-7981|IDEOGRAPH-7A7A
1F234 SQUARED CJK UNIFIED |IDEOGRAPH-5408|IDEOGRAPH-6E80|IDEOGRAPH-6709|IDEOGRAPH-6708
1F238 SQUARED CJK UNIFIED |IDEOGRAPH-7533|IDEOGRAPH-5272|IDEOGRAPH-55B6|IDEOGRAPH-914D
1F240 TORTOISE SHELL BRACKETED CJK UNIFIED |IDEOGRAPH-672C|IDEOGRAPH-4E09|IDEOGRAPH-4E8C
1F243 TORTOISE SHELL BRACKETED CJK UNIFIED |IDEOGRAPH-5B89|IDEOGRAPH-70B9|IDEOGRAPH-6253
1F246 TORTOISE SHELL BRACKETED CJK UNIFIED |IDEOGRAPH-76D7|IDEOGRAPH-52DD|IDEOGRAPH-6557
1F250 CIRCLED IDEOGRAPH |ADVANTAGE|ACCEPT
1F260 ROUNDED SYMBOL FOR |FU|LU|SHOU|XI|SHUANGXI|CAI
1F300 |CYCLONE|FOGGY|CLOSED UMBRELLA|NIGHT WITH STARS|SUNRISE OVER MOUNTAINS|SUNRISE
1F306 |CITYSCAPE AT DUSK|SUNSET OVER BUILDINGS|RAINBOW|BRIDGE AT NIGHT|WATER WAVE|VOLCANO|MILKY WAY
1F30D EARTH GLOBE |EUROPE-AFRICA|AMERICAS|ASIA-AUSTRALIA
1F310 |GLOBE WITH MERIDIANS|NEW MOON SYMBOL|WAXING CRESCENT MOON SYMBOL|FIRST QUARTER MOON SYMBOL
1F314 |WAXING GIBBOUS MOON SYMBOL|FULL MOON SYMBOL|WANING GIBBOUS MOON SYMBOL
1F317 |LAST QUARTER MOON SYMBOL|WANING CRESCENT MOON SYMBOL|CRESCENT MOON|NEW MOON WITH FACE
1F31B |FIRST QUARTER MOON WITH FACE|LAST QUARTER MOON WITH FACE|FULL MOON WITH FACE
1F31E |SUN WITH FACE|GLOWING STAR|SHOOTING STAR|THERMOMETER|BLACK DROPLET|WHITE SUN
1F324 WHITE SUN |WITH SMALL CLOUD|BEHIND CLOUD|BEHIND CLOUD WITH RAIN
1F327 CLOUD WITH |RAIN|SNOW|LIGHTNING|TORNADO
1F32B |FOG|WIND BLOWING FACE|HOT DOG|TACO|BURRITO|CHESTNUT|SEEDLING
1F332 |EVERGREEN TREE|DECIDUOUS TREE|PALM TREE|CACTUS|HOT PEPPER|TULIP|CHERRY BLOSSOM|ROSE|HIBISCUS
1F33B |SUNFLOWER|BLOSSOM|EAR OF MAIZE|EAR OF RICE|HERB|FOUR LEAF CLOVER|MAPLE LEAF|FALLEN LEAF
1F343 |LEAF FLUTTERING IN WIND|MUSHROOM|TOMATO|AUBERGINE|GRAPES|MELON|WATERMELON|TANGERINE
1F34B |LEMON|BANANA|PINEAPPLE|RED APPLE|GREEN APPLE|PEAR|PEACH|CHERRIES|STRAWBERRY|HAMBURGER
1F355 |SLICE OF PIZZA|MEAT ON BONE|POULTRY LEG|RICE CRACKER|RICE BALL|COOKED RICE|CURRY AND RICE
1F35C |STEAMING BOWL|SPAGHETTI|BREAD|FRENCH FRIES|ROASTED SWEET POTATO|DANGO|ODEN|SUSHI|FRIED SHRIMP
1F365 |FISH CAKE WITH SWIRL DESIGN|SOFT ICE CREAM|SHAVED ICE|ICE CREAM|DOUGHNUT|COOKIE|CHOCOLATE BAR
1F36C |CANDY|LOLLIPOP|CUSTARD|HONEY POT|SHORTCAKE|BENTO BOX|POT OF FOOD|COOKING|FORK AND KNIFE
1F375 |TEACUP WITHOUT HANDLE|SAKE BOTTLE AND CUP|WINE GLASS|COCKTAIL GLASS|TROPICAL DRINK
1F37A |BEER MUG|CLINKING BEER MUGS|BABY BOTTLE|FORK AND KNIFE WITH PLATE|BOTTLE WITH POPPING CORK
1F37F |POPCORN|RIBBON|WRAPPED PRESENT|BIRTHDAY CAKE|JACK-O-LANTERN|CHRISTMAS TREE
1F385 |FATHER CHRISTMAS|FIREWORKS|FIREWORK SPARKLER|BALLOON|PARTY POPPER|CONFETTI BALL|TANABATA TREE
1F38C |CROSSED FLAGS|PINE DECORATION|JAPANESE DOLLS|CARP STREAMER|WIND CHIME|MOON VIEWING CEREMONY
1F392 |SCHOOL SATCHEL|GRADUATION CAP|HEART WITH TIP ON THE LEFT|BOUQUET OF FLOWERS|MILITARY MEDAL
1F397 |REMINDER RIBBON|MUSICAL KEYBOARD WITH JACKS|STUDIO MICROPHONE|LEVEL SLIDER|CONTROL KNOBS
1F39C BEAMED |ASCENDING MUSICAL NOTES|DESCENDING MUSICAL NOTES
1F39E |FILM FRAMES|ADMISSION TICKETS|CAROUSEL HORSE|FERRIS WHEEL|ROLLER COASTER
1F3A3 |FISHING POLE AND FISH|MICROPHONE|MOVIE CAMERA|CINEMA|HEADPHONE|ARTIST PALETTE|TOP HAT
1F3AA |CIRCUS TENT|TICKET|CLAPPER BOARD|PERFORMING ARTS|VIDEO GAME|DIRECT HIT|SLOT MACHINE|BILLIARDS
1F3B2 |GAME DIE|BOWLING|FLOWER PLAYING CARDS|MUSICAL NOTE|MULTIPLE MUSICAL NOTES|SAXOPHONE|GUITAR
1F3B9 |MUSICAL KEYBOARD|TRUMPET|VIOLIN|MUSICAL SCORE|RUNNING SHIRT WITH SASH|TENNIS RACQUET AND BALL
1F3BF |SKI AND SKI BOOT|BASKETBALL AND HOOP|CHEQUERED FLAG|SNOWBOARDER|RUNNER|SURFER|SPORTS MEDAL
1F3C6 |TROPHY|HORSE RACING|AMERICAN FOOTBALL|RUGBY FOOTBALL|SWIMMER|WEIGHT LIFTER|GOLFER
1F3CD RACING |MOTORCYCLE|CAR
1F3CF |CRICKET BAT AND BALL|VOLLEYBALL|FIELD HOCKEY STICK AND BALL
1F3D2 |ICE HOCKEY STICK AND PUCK|TABLE TENNIS PADDLE AND BALL|SNOW CAPPED MOUNTAIN|CAMPING
1F3D6 |BEACH WITH UMBRELLA|BUILDING CONSTRUCTION|HOUSE BUILDINGS|CITYSCAPE|DERELICT HOUSE BUILDING
1F3DB |CLASSICAL BUILDING|DESERT|DESERT ISLAND|NATIONAL PARK|STADIUM|HOUSE BUILDING
1F3E1 |HOUSE WITH GARDEN|OFFICE BUILDING|JAPANESE POST OFFICE|EUROPEAN POST OFFICE|HOSPITAL
1F3E6 |BANK|AUTOMATED TELLER MACHINE|HOTEL|LOVE HOTEL|CONVENIENCE STORE|SCHOOL|DEPARTMENT STORE
1F3ED |FACTORY|IZAKAYA LANTERN|JAPANESE CASTLE|EUROPEAN CASTLE|WHITE PENNANT|BLACK PENNANT
1F3F3 WAVING |WHITE FLAG|BLACK FLAG
1F3F5 |ROSETTE|BLACK ROSETTE|LABEL|BADMINTON RACQUET AND SHUTTLECOCK|BOW AND ARROW|AMPHORA
1F3FB EMOJI MODIFIER FITZPATRICK |TYPE-1-2|TYPE-3|TYPE-4|TYPE-5|TYPE-6
1F400 |RAT|MOUSE|OX|WATER BUFFALO|COW|TIGER|LEOPARD
1F407 |RABBIT|CAT|DRAGON|CROCODILE|WHALE|SNAIL|SNAKE|HORSE|RAM|GOAT|SHEEP|MONKEY|ROOSTER|CHICKEN
1F415 |DOG|PIG|BOAR|ELEPHANT|OCTOPUS|SPIRAL SHELL|BUG|ANT|HONEYBEE|LADY BEETLE|FISH|TROPICAL FISH
1F421 |BLOWFISH|TURTLE|HATCHING CHICK|BABY CHICK|FRONT-FACING BABY CHICK|BIRD|PENGUIN|KOALA|POODLE
1F42A |DROMEDARY CAMEL|BACTRIAN CAMEL|DOLPHIN|MOUSE FACE|COW FACE|TIGER FACE|RABBIT FACE|CAT FACE
1F432 |DRAGON FACE|SPOUTING WHALE|HORSE FACE|MONKEY FACE|DOG FACE|PIG FACE|FROG FACE|HAMSTER FACE
1F43A |WOLF FACE|BEAR FACE|PANDA FACE|PIG NOSE|PAW PRINTS|CHIPMUNK|EYES|EYE|EAR|NOSE|MOUTH|TONGUE
1F446 WHITE |UP POINTING BACKHAND INDEX|DOWN POINTING BACKHAND INDEX|LEFT POINTING BACKHAND INDEX
1F449 |WHITE RIGHT POINTING BACKHAND INDEX|FISTED HAND SIGN|WAVING HAND SIGN|OK HAND SIGN
1F44D THUMBS |UP SIGN|DOWN SIGN
1F44F |CLAPPING HANDS SIGN|OPEN HANDS SIGN|CROWN|WOMANS HAT|EYEGLASSES|NECKTIE|T-SHIRT|JEANS|DRESS
1F458 |KIMONO|BIKINI|WOMANS CLOTHES|PURSE|HANDBAG|POUCH|MANS SHOE|ATHLETIC SHOE|HIGH-HEELED SHOE
1F461 WOMANS |SANDAL|BOOTS
1F463 |FOOTPRINTS|BUST IN SILHOUETTE|BUSTS IN SILHOUETTE|BOY|GIRL
1F468 |MAN|WOMAN|FAMILY|MAN AND WOMAN HOLDING HANDS|TWO MEN HOLDING HANDS|TWO WOMEN HOLDING HANDS
1F46E |POLICE OFFICER|WOMAN WITH BUNNY EARS|BRIDE WITH VEIL|PERSON WITH BLOND HAIR
1F472 MAN WITH |GUA PI MAO|TURBAN
1F474 |OLDER MAN|OLDER WOMAN|BABY|CONSTRUCTION WORKER|PRINCESS
1F479 JAPANESE |OGRE|GOBLIN
1F47B |GHOST|BABY ANGEL|EXTRATERRESTRIAL ALIEN
1F47E |ALIEN MONSTER|IMP|SKULL|INFORMATION DESK PERSON|GUARDSMAN|DANCER|LIPSTICK|NAIL POLISH
1F486 |FACE MASSAGE|HAIRCUT|BARBER POLE|SYRINGE|PILL|KISS MARK|LOVE LETTER|RING|GEM STONE
1F48F |KISS|BOUQUET|COUPLE WITH HEART|WEDDING|BEATING HEART|BROKEN HEART|TWO HEARTS|SPARKLING HEART
1F497 |GROWING HEART|HEART WITH ARROW|BLUE HEART|GREEN HEART|YELLOW HEART|PURPLE HEART
1F49D |HEART WITH RIBBON|REVOLVING HEARTS|HEART DECORATION|DIAMOND SHAPE WITH A DOT INSIDE
1F4A1 |ELECTRIC LIGHT BULB|ANGER SYMBOL|BOMB|SLEEPING SYMBOL|COLLISION SYMBOL|SPLASHING SWEAT SYMBOL
1F4A7 |DROPLET|DASH SYMBOL|PILE OF POO|FLEXED BICEPS|DIZZY SYMBOL|SPEECH BALLOON|THOUGHT BALLOON
1F4AE |WHITE FLOWER|HUNDRED POINTS SYMBOL|MONEY BAG|CURRENCY EXCHANGE|HEAVY DOLLAR SIGN|CREDIT CARD
1F4B4 BANKNOTE WITH |YEN SIGN|DOLLAR SIGN|EURO SIGN|POUND SIGN
1F4B8 |MONEY WITH WINGS|CHART WITH UPWARDS TREND AND YEN SIGN
1F4BA |SEAT|PERSONAL COMPUTER|BRIEFCASE|MINIDISC|FLOPPY DISK|OPTICAL DISC|DVD|FILE FOLDER
1F4C2 |OPEN FILE FOLDER|PAGE WITH CURL|PAGE FACING UP|CALENDAR|TEAR-OFF CALENDAR|CARD INDEX
1F4C8 CHART WITH |UPWARDS TREND|DOWNWARDS TREND
1F4CA |BAR CHART|CLIPBOARD|PUSHPIN|ROUND PUSHPIN|PAPERCLIP|STRAIGHT RULER
1F4D0 |TRIANGULAR RULER|BOOKMARK TABS|LEDGER|NOTEBOOK|NOTEBOOK WITH DECORATIVE COVER|CLOSED BOOK
1F4D6 |OPEN BOOK|GREEN BOOK|BLUE BOOK|ORANGE BOOK|BOOKS|NAME BADGE|SCROLL|MEMO|TELEPHONE RECEIVER
1F4DF |PAGER|FAX MACHINE|SATELLITE ANTENNA|PUBLIC ADDRESS LOUDSPEAKER|CHEERING MEGAPHONE|OUTBOX TRAY
1F4E5 |INBOX TRAY|PACKAGE|E-MAIL SYMBOL|INCOMING ENVELOPE|ENVELOPE WITH DOWNWARDS ARROW ABOVE
1F4EA CLOSED MAILBOX WITH |LOWERED FLAG|RAISED FLAG
1F4EC OPEN MAILBOX WITH |RAISED FLAG|LOWERED FLAG
1F4EE |POSTBOX|POSTAL HORN|NEWSPAPER
1F4F1 MOBILE |PHONE|PHONE WITH RIGHTWARDS ARROW AT LEFT
1F4F3 |VIBRATION MODE|MOBILE PHONE OFF
1F4F5 |NO MOBILE PHONES|ANTENNA WITH BARS|CAMERA|CAMERA WITH FLASH|VIDEO CAMERA|TELEVISION
1F4FB |RADIO|VIDEOCASSETTE|FILM PROJECTOR|PORTABLE STEREO|PRAYER BEADS|TWISTED RIGHTWARDS ARROWS
1F501 CLOCKWISE RIGHTWARDS AND LEFTWARDS OPEN CIRCLE |ARROWS|ARROWS WITH CIRCLED ONE OVERLAY
1F503 |CLOCKWISE DOWNWARDS AND UPWARDS OPEN CIRCLE ARROWS
1F504 |ANTICLOCKWISE DOWNWARDS AND UPWARDS OPEN CIRCLE ARROWS
1F505 |LOW BRIGHTNESS SYMBOL|HIGH BRIGHTNESS SYMBOL|SPEAKER WITH CANCELLATION STROKE|SPEAKER
1F509 SPEAKER WITH |ONE SOUND WAVE|THREE SOUND WAVES
1F50B |BATTERY|ELECTRIC PLUG
1F50D |LEFT-POINTING MAGNIFYING GLASS|RIGHT-POINTING MAGNIFYING GLASS|LOCK WITH INK PEN
1F510 |CLOSED LOCK WITH KEY|KEY|LOCK|OPEN LOCK|BELL|BELL WITH CANCELLATION STROKE|BOOKMARK
1F517 |LINK SYMBOL|RADIO BUTTON|BACK WITH LEFTWARDS ARROW ABOVE|END WITH LEFTWARDS ARROW ABOVE
1F51B |ON WITH EXCLAMATION MARK WITH LEFT RIGHT ARROW ABOVE|SOON WITH RIGHTWARDS ARROW ABOVE
1F51D |TOP WITH UPWARDS ARROW ABOVE|NO ONE UNDER EIGHTEEN SYMBOL|KEYCAP TEN
1F520 INPUT SYMBOL FOR |LATIN CAPITAL LETTERS|LATIN SMALL LETTERS|NUMBERS|SYMBOLS|LATIN LETTERS
1F525 |FIRE|ELECTRIC TORCH|WRENCH|HAMMER
1F529 |NUT AND BOLT|HOCHO|PISTOL|MICROSCOPE|TELESCOPE|CRYSTAL BALL|SIX POINTED STAR WITH MIDDLE DOT
1F530 |JAPANESE SYMBOL FOR BEGINNER|TRIDENT EMBLEM|BLACK SQUARE BUTTON|WHITE SQUARE BUTTON
1F534 LARGE |RED CIRCLE|BLUE CIRCLE|ORANGE DIAMOND|BLUE DIAMOND
1F538 |SMALL ORANGE DIAMOND|SMALL BLUE DIAMOND|UP-POINTING RED TRIANGLE
1F53B |DOWN-POINTING RED TRIANGLE|UP-POINTING SMALL RED TRIANGLE|DOWN-POINTING SMALL RED TRIANGLE
1F53E |LOWER RIGHT SHADOWED WHITE CIRCLE|UPPER RIGHT SHADOWED WHITE CIRCLE|CIRCLED CROSS POMMEE
1F541 CROSS |POMMEE WITH HALF-CIRCLE BELOW|POMMEE
1F543 NOTCHED |LEFT SEMICIRCLE WITH THREE DOTS|RIGHT SEMICIRCLE WITH THREE DOTS
1F545 |SYMBOL FOR MARKS CHAPTER|WHITE LATIN CROSS|HEAVY LATIN CROSS|CELTIC CROSS
1F549 |OM SYMBOL|DOVE OF PEACE|KAABA|MOSQUE|SYNAGOGUE|MENORAH WITH NINE BRANCHES|BOWL OF HYGIEIA
1F550 CLOCK FACE |ONE OCLOCK|TWO OCLOCK|THREE OCLOCK|FOUR OCLOCK|FIVE OCLOCK|SIX OCLOCK
1F556 CLOCK FACE |SEVEN OCLOCK|EIGHT OCLOCK|NINE OCLOCK|TEN OCLOCK|ELEVEN OCLOCK|TWELVE OCLOCK
1F55C CLOCK FACE |ONE-THIRTY|TWO-THIRTY|THREE-THIRTY|FOUR-THIRTY|FIVE-THIRTY|SIX-THIRTY
1F562 CLOCK FACE |SEVEN-THIRTY|EIGHT-THIRTY|NINE-THIRTY|TEN-THIRTY|ELEVEN-THIRTY|TWELVE-THIRTY
1F568 |RIGHT SPEAKER
1F569 RIGHT SPEAKER WITH |ONE SOUND WAVE|THREE SOUND WAVES
1F56B |BULLHORN|BULLHORN WITH SOUND WAVES|RINGING BELL|BOOK|CANDLE
1F570 |MANTELPIECE CLOCK|BLACK SKULL AND CROSSBONES|NO PIRACY|HOLE|MAN IN BUSINESS SUIT LEVITATING
1F575 |SLEUTH OR SPY|DARK SUNGLASSES|SPIDER|SPIDER WEB|JOYSTICK|MAN DANCING
1F57B |LEFT HAND TELEPHONE RECEIVER|TELEPHONE RECEIVER WITH PAGE|RIGHT HAND TELEPHONE RECEIVER
1F57E |WHITE TOUCHTONE TELEPHONE|BLACK TOUCHTONE TELEPHONE|TELEPHONE ON TOP OF MODEM
1F581 |CLAMSHELL MOBILE PHONE|BACK OF ENVELOPE|STAMPED ENVELOPE|ENVELOPE WITH LIGHTNING
1F585 |FLYING ENVELOPE|PEN OVER STAMPED ENVELOPE|LINKED PAPERCLIPS|BLACK PUSHPIN
1F589 LOWER LEFT |PENCIL|BALLPOINT PEN|FOUNTAIN PEN|PAINTBRUSH|CRAYON
1F58E |LEFT WRITING HAND|TURNED OK HAND SIGN
1F590 |RAISED HAND WITH FINGERS SPLAYED|REVERSED RAISED HAND WITH FINGERS SPLAYED
1F592 REVERSED |THUMBS UP SIGN|THUMBS DOWN SIGN|VICTORY HAND|HAND WITH MIDDLE FINGER EXTENDED
1F596 |RAISED HAND WITH PART BETWEEN MIDDLE AND RING FINGERS|WHITE DOWN POINTING LEFT HAND INDEX
1F598 SIDEWAYS WHITE |LEFT POINTING INDEX|RIGHT POINTING INDEX
1F59A SIDEWAYS BLACK |LEFT POINTING INDEX|RIGHT POINTING INDEX
1F59C BLACK |LEFT POINTING BACKHAND INDEX|RIGHT POINTING BACKHAND INDEX
1F59E SIDEWAYS WHITE |UP POINTING INDEX|DOWN POINTING INDEX
1F5A0 SIDEWAYS BLACK |UP POINTING INDEX|DOWN POINTING INDEX
1F5A2 BLACK |UP POINTING BACKHAND INDEX|DOWN POINTING BACKHAND INDEX|HEART
1F5A5 |DESKTOP COMPUTER|KEYBOARD AND MOUSE|THREE NETWORKED COMPUTERS|PRINTER|POCKET CALCULATOR
1F5AA |BLACK HARD SHELL FLOPPY DISK|WHITE HARD SHELL FLOPPY DISK|SOFT SHELL FLOPPY DISK
1F5AD |TAPE CARTRIDGE|WIRED KEYBOARD|ONE BUTTON MOUSE|TWO BUTTON MOUSE|THREE BUTTON MOUSE
1F5B2 |TRACKBALL|OLD PERSONAL COMPUTER|HARD DISK|SCREEN|PRINTER ICON|FAX ICON|OPTICAL DISC ICON
1F5B9 DOCUMENT WITH |TEXT|TEXT AND PICTURE|PICTURE
1F5BC FRAME WITH |PICTURE|TILES|AN X
1F5BF |BLACK FOLDER|FOLDER|OPEN FOLDER|CARD INDEX DIVIDERS|CARD FILE BOX|FILE CABINET
1F5C5 EMPTY |NOTE|NOTE PAGE|NOTE PAD
1F5C8 |NOTE|NOTE PAGE|NOTE PAD
1F5CB EMPTY |DOCUMENT|PAGE|PAGES
1F5CE |DOCUMENT|PAGE|PAGES|WASTEBASKET|SPIRAL NOTE PAD|SPIRAL CALENDAR PAD|DESKTOP WINDOW
1F5D5 |MINIMIZE|MAXIMIZE|OVERLAP|CLOCKWISE RIGHT AND LEFT SEMICIRCLE ARROWS|CANCELLATION X
1F5DA |INCREASE FONT SIZE SYMBOL|DECREASE FONT SIZE SYMBOL|COMPRESSION|OLD KEY|ROLLED-UP NEWSPAPER
1F5DF |PAGE WITH CIRCLED TEXT|STOCK CHART|DAGGER KNIFE|LIPS|SPEAKING HEAD IN SILHOUETTE
1F5E4 THREE RAYS |ABOVE|BELOW|LEFT|RIGHT
1F5E8 |LEFT SPEECH BUBBLE|RIGHT SPEECH BUBBLE|TWO SPEECH BUBBLES|THREE SPEECH BUBBLES
1F5EC |LEFT THOUGHT BUBBLE|RIGHT THOUGHT BUBBLE|LEFT ANGER BUBBLE|RIGHT ANGER BUBBLE|MOOD BUBBLE
1F5F1 LIGHTNING |MOOD BUBBLE|MOOD
1F5F3 BALLOT |BOX WITH BALLOT|SCRIPT X|BOX WITH SCRIPT X|BOLD SCRIPT X|BOX WITH BOLD SCRIPT X
1F5F8 |LIGHT CHECK MARK|BALLOT BOX WITH BOLD CHECK
1F5FA |WORLD MAP|MOUNT FUJI|TOKYO TOWER|STATUE OF LIBERTY|SILHOUETTE OF JAPAN|MOYAI
1F600 GRINNING |FACE|FACE WITH SMILING EYES
1F602 |FACE WITH TEARS OF JOY|SMILING FACE WITH OPEN MOUTH
1F604 SMILING FACE WITH OPEN MOUTH AND |SMILING EYES|COLD SWEAT|TIGHTLY-CLOSED EYES
1F607 SMILING FACE WITH |HALO|HORNS
1F609 |WINKING FACE|SMILING FACE WITH SMILING EYES|FACE SAVOURING DELICIOUS FOOD|RELIEVED FACE
1F60D SMILING FACE WITH |HEART-SHAPED EYES|SUNGLASSES
1F60F |SMIRKING FACE|NEUTRAL FACE|EXPRESSIONLESS FACE|UNAMUSED FACE|FACE WITH COLD SWEAT
1F614 |PENSIVE FACE|CONFUSED FACE|CONFOUNDED FACE|KISSING FACE|FACE THROWING A KISS
1F619 KISSING FACE WITH |SMILING EYES|CLOSED EYES
1F61B FACE WITH STUCK-OUT |TONGUE|TONGUE AND WINKING EYE|TONGUE AND TIGHTLY-CLOSED EYES
1F61E |DISAPPOINTED FACE|WORRIED FACE|ANGRY FACE|POUTING FACE
1F622 |CRYING FACE|PERSEVERING FACE|FACE WITH LOOK OF TRIUMPH|DISAPPOINTED BUT RELIEVED FACE
1F626 |FROWNING FACE WITH OPEN MOUTH|ANGUISHED FACE|FEARFUL FACE|WEARY FACE
1F62A |SLEEPY FACE|TIRED FACE|GRIMACING FACE|LOUDLY CRYING FACE|FACE WITH OPEN MOUTH|HUSHED FACE
1F630 FACE |WITH OPEN MOUTH AND COLD SWEAT|SCREAMING IN FEAR
1F632 |ASTONISHED FACE|FLUSHED FACE|SLEEPING FACE|DIZZY FACE|FACE WITHOUT MOUTH
1F637 |FACE WITH MEDICAL MASK|GRINNING CAT FACE WITH SMILING EYES|CAT FACE WITH TEARS OF JOY
1F63A SMILING CAT FACE WITH |OPEN MOUTH|HEART-SHAPED EYES
1F63C |CAT FACE WITH WRY SMILE|KISSING CAT FACE WITH CLOSED EYES|POUTING CAT FACE
1F63F |CRYING CAT FACE|WEARY CAT FACE|SLIGHTLY FROWNING FACE|SLIGHTLY SMILING FACE|UPSIDE-DOWN FACE
1F644 FACE WITH |ROLLING EYES|NO GOOD GESTURE|OK GESTURE
1F647 |PERSON BOWING DEEPLY
1F648 |SEE-NO-EVIL MONKEY|HEAR-NO-EVIL MONKEY|SPEAK-NO-EVIL MONKEY|HAPPY PERSON RAISING ONE HAND
1F64C PERSON |RAISING BOTH HANDS IN CELEBRATION|FROWNING|WITH POUTING FACE|WITH FOLDED HANDS
1F650 |NORTH WEST POINTING LEAF|SOUTH WEST POINTING LEAF
1F652 |NORTH EAST POINTING LEAF|SOUTH EAST POINTING LEAF|TURNED NORTH WEST POINTING LEAF
1F655 TURNED |SOUTH WEST POINTING LEAF|NORTH EAST POINTING LEAF|SOUTH EAST POINTING LEAF
1F658 |NORTH WEST POINTING VINE LEAF|SOUTH WEST POINTING VINE LEAF|NORTH EAST POINTING VINE LEAF
1F65B |SOUTH EAST POINTING VINE LEAF|HEAVY NORTH WEST POINTING VINE LEAF
1F65D HEAVY |SOUTH WEST POINTING VINE LEAF|NORTH EAST POINTING VINE LEAF
1F65F |HEAVY SOUTH EAST POINTING VINE LEAF|NORTH WEST POINTING BUD|SOUTH WEST POINTING BUD
1F662 |NORTH EAST POINTING BUD|SOUTH EAST POINTING BUD|HEAVY NORTH WEST POINTING BUD
1F665 HEAVY |SOUTH WEST POINTING BUD|NORTH EAST POINTING BUD|SOUTH EAST POINTING BUD
1F668 HOLLOW QUILT SQUARE |ORNAMENT|ORNAMENT IN BLACK SQUARE
1F66A SOLID QUILT SQUARE |ORNAMENT|ORNAMENT IN BLACK SQUARE
1F66C |LEFTWARDS ROCKET|UPWARDS ROCKET|RIGHTWARDS ROCKET|DOWNWARDS ROCKET
1F670 |SCRIPT LIGATURE ET ORNAMENT|HEAVY SCRIPT LIGATURE ET ORNAMENT|LIGATURE OPEN ET ORNAMENT
1F673 |HEAVY LIGATURE OPEN ET ORNAMENT|HEAVY AMPERSAND ORNAMENT|SWASH AMPERSAND ORNAMENT
1F676 SANS-SERIF HEAVY DOUBLE |TURNED COMMA QUOTATION MARK ORNAMENT|COMMA QUOTATION MARK ORNAMENT
1F678 |SANS-SERIF HEAVY LOW DOUBLE COMMA QUOTATION MARK ORNAMENT|HEAVY INTERROBANG ORNAMENT
1F67A |SANS-SERIF INTERROBANG ORNAMENT|HEAVY SANS-SERIF INTERROBANG ORNAMENT
1F67C VERY HEAVY |SOLIDUS|REVERSE SOLIDUS
1F67E |CHECKER BOARD|REVERSE CHECKER BOARD|ROCKET|HELICOPTER|STEAM LOCOMOTIVE|RAILWAY CAR
1F684 HIGH-SPEED |TRAIN|TRAIN WITH BULLET NOSE
1F686 |TRAIN|METRO|LIGHT RAIL|STATION|TRAM|TRAM CAR|BUS|ONCOMING BUS|TROLLEYBUS
1F68F |BUS STOP|MINIBUS|AMBULANCE|FIRE ENGINE|POLICE CAR|ONCOMING POLICE CAR|TAXI|ONCOMING TAXI
1F697 |AUTOMOBILE|ONCOMING AUTOMOBILE|RECREATIONAL VEHICLE|DELIVERY TRUCK|ARTICULATED LORRY
1F69C |TRACTOR|MONORAIL|MOUNTAIN RAILWAY|SUSPENSION RAILWAY|MOUNTAIN CABLEWAY|AERIAL TRAMWAY
1F6A2 |SHIP|ROWBOAT|SPEEDBOAT|HORIZONTAL TRAFFIC LIGHT|VERTICAL TRAFFIC LIGHT|CONSTRUCTION SIGN
1F6A8 |POLICE CARS REVOLVING LIGHT|TRIANGULAR FLAG ON POST|DOOR|NO ENTRY SIGN|SMOKING SYMBOL
1F6AD |NO SMOKING SYMBOL|PUT LITTER IN ITS PLACE SYMBOL|DO NOT LITTER SYMBOL|POTABLE WATER SYMBOL
1F6B1 |NON-POTABLE WATER SYMBOL|BICYCLE|NO BICYCLES|BICYCLIST|MOUNTAIN BICYCLIST
1F6B6 |PEDESTRIAN|NO PEDESTRIANS|CHILDREN CROSSING|MENS SYMBOL|WOMENS SYMBOL|RESTROOM
1F6BC |BABY SYMBOL|TOILET|WATER CLOSET|SHOWER|BATH|BATHTUB|PASSPORT CONTROL|CUSTOMS|BAGGAGE CLAIM
1F6C5 |LEFT LUGGAGE|TRIANGLE WITH ROUNDED CORNERS|PROHIBITED SIGN|CIRCLED INFORMATION SOURCE
1F6C9 |BOYS SYMBOL|GIRLS SYMBOL|COUCH AND LAMP|SLEEPING ACCOMMODATION|SHOPPING BAGS|BELLHOP BELL
1F6CF |BED|PLACE OF WORSHIP|OCTAGONAL SIGN|SHOPPING TROLLEY|STUPA|PAGODA|HINDU TEMPLE|HUT|ELEVATOR
1F6DD |PLAYGROUND SLIDE
1F6DE |WHEEL|RING BUOY|HAMMER AND WRENCH|SHIELD|OIL DRUM|MOTORWAY|RAILWAY TRACK|MOTOR BOAT
1F6E6 UP-POINTING |MILITARY AIRPLANE|AIRPLANE|SMALL AIRPLANE
1F6E9 |SMALL AIRPLANE|NORTHEAST-POINTING AIRPLANE
1F6EB AIRPLANE |DEPARTURE|ARRIVING
1F6F0 |SATELLITE|ONCOMING FIRE ENGINE|DIESEL LOCOMOTIVE|PASSENGER SHIP|SCOOTER
1F6F5 |MOTOR SCOOTER|CANOE|SLED|FLYING SAUCER|SKATEBOARD|AUTO RICKSHAW|PICKUP TRUCK|ROLLER SKATE
1F700 ALCHEMICAL SYMBOL FOR |QUINTESSENCE|AIR|FIRE|EARTH|WATER|AQUAFORTIS
1F706 ALCHEMICAL SYMBOL FOR AQUA |REGIA|REGIA-2|VITAE|VITAE-2
1F70A ALCHEMICAL SYMBOL FOR |VINEGAR|VINEGAR-2|VINEGAR-3|SULFUR|PHILOSOPHERS SULFUR|BLACK SULFUR
1F710 ALCHEMICAL SYMBOL FOR MERCURY |SUBLIMATE|SUBLIMATE-2|SUBLIMATE-3
1F713 ALCHEMICAL SYMBOL FOR |CINNABAR|SALT|NITRE|VITRIOL|VITRIOL-2|ROCK SALT|ROCK SALT-2
1F71A ALCHEMICAL SYMBOL FOR |GOLD|SILVER|IRON ORE|IRON ORE-2|CROCUS OF IRON|REGULUS OF IRON
1F720 ALCHEMICAL SYMBOL FOR |COPPER ORE|IRON-COPPER ORE|SUBLIMATE OF COPPER|CROCUS OF COPPER
1F724 ALCHEMICAL SYMBOL FOR |CROCUS OF COPPER-2|COPPER ANTIMONIATE|SALT OF COPPER ANTIMONIATE
1F727 ALCHEMICAL SYMBOL FOR |SUBLIMATE OF SALT OF COPPER|VERDIGRIS|TIN ORE|LEAD ORE|ANTIMONY ORE
1F72C ALCHEMICAL SYMBOL FOR |SUBLIMATE OF ANTIMONY|SALT OF ANTIMONY|SUBLIMATE OF SALT OF ANTIMONY
1F72F ALCHEMICAL SYMBOL FOR |VINEGAR OF ANTIMONY|REGULUS OF ANTIMONY|REGULUS OF ANTIMONY-2
1F732 ALCHEMICAL SYMBOL FOR |REGULUS|REGULUS-2|REGULUS-3|REGULUS-4|ALKALI|ALKALI-2|MARCASITE
1F739 ALCHEMICAL SYMBOL FOR |SAL-AMMONIAC|ARSENIC|REALGAR|REALGAR-2|AURIPIGMENT|BISMUTH ORE|TARTAR
1F740 ALCHEMICAL SYMBOL FOR |TARTAR-2|QUICK LIME|BORAX|BORAX-2|BORAX-3|ALUM|OIL|SPIRIT|TINCTURE|GUM
1F74A ALCHEMICAL SYMBOL FOR |WAX|POWDER|CALX|TUTTY|CAPUT MORTUUM|SCEPTER OF JOVE|CADUCEUS|TRIDENT
1F752 ALCHEMICAL SYMBOL FOR |STARRED TRIDENT|LODESTONE|SOAP|URINE|HORSE DUNG|ASHES|POT ASHES|BRICK
1F75A ALCHEMICAL SYMBOL FOR |POWDERED BRICK|AMALGAM|STRATUM SUPER STRATUM|STRATUM SUPER STRATUM-2
1F75E ALCHEMICAL SYMBOL FOR |SUBLIMATION|PRECIPITATE|DISTILL|DISSOLVE|DISSOLVE-2|PURIFY|PUTREFACTION
1F765 ALCHEMICAL SYMBOL FOR |CRUCIBLE|CRUCIBLE-2|CRUCIBLE-3|CRUCIBLE-4|CRUCIBLE-5|ALEMBIC
1F76B ALCHEMICAL SYMBOL FOR BATH OF |MARY|VAPOURS
1F76D ALCHEMICAL SYMBOL FOR |RETORT|HOUR|NIGHT|DAY-NIGHT|MONTH|HALF DRAM|HALF OUNCE
1F780 |BLACK LEFT-POINTING ISOSCELES RIGHT TRIANGLE
1F781 BLACK |UP-POINTING ISOSCELES RIGHT TRIANGLE|RIGHT-POINTING ISOSCELES RIGHT TRIANGLE
1F783 BLACK |DOWN-POINTING ISOSCELES RIGHT TRIANGLE|SLIGHTLY SMALL CIRCLE
1F785 |MEDIUM BOLD WHITE CIRCLE|BOLD WHITE CIRCLE|HEAVY WHITE CIRCLE|VERY HEAVY WHITE CIRCLE
1F789 |EXTREMELY HEAVY WHITE CIRCLE|WHITE CIRCLE CONTAINING BLACK SMALL CIRCLE|ROUND TARGET
1F78C |BLACK TINY SQUARE|BLACK SLIGHTLY SMALL SQUARE|LIGHT WHITE SQUARE|MEDIUM WHITE SQUARE
1F790 |BOLD WHITE SQUARE|HEAVY WHITE SQUARE|VERY HEAVY WHITE SQUARE|EXTREMELY HEAVY WHITE SQUARE
1F794 WHITE SQUARE CONTAINING BLACK |VERY SMALL SQUARE|MEDIUM SQUARE
1F796 |SQUARE TARGET
1F797 BLACK |TINY DIAMOND|VERY SMALL DIAMOND|MEDIUM SMALL DIAMOND
1F79A WHITE DIAMOND CONTAINING BLACK |VERY SMALL DIAMOND|MEDIUM DIAMOND
1F79C |DIAMOND TARGET
1F79D BLACK |TINY LOZENGE|VERY SMALL LOZENGE|MEDIUM SMALL LOZENGE
1F7A0 |WHITE LOZENGE CONTAINING BLACK SMALL LOZENGE|THIN GREEK CROSS|LIGHT GREEK CROSS
1F7A3 |MEDIUM GREEK CROSS|BOLD GREEK CROSS|VERY BOLD GREEK CROSS|VERY HEAVY GREEK CROSS
1F7A7 |EXTREMELY HEAVY GREEK CROSS|THIN SALTIRE|LIGHT SALTIRE|MEDIUM SALTIRE|BOLD SALTIRE
1F7AC |HEAVY SALTIRE|VERY HEAVY SALTIRE|EXTREMELY HEAVY SALTIRE|LIGHT FIVE SPOKED ASTERISK
1F7B0 |MEDIUM FIVE SPOKED ASTERISK|BOLD FIVE SPOKED ASTERISK|HEAVY FIVE SPOKED ASTERISK
1F7B3 |VERY HEAVY FIVE SPOKED ASTERISK|EXTREMELY HEAVY FIVE SPOKED ASTERISK
1F7B5 |LIGHT SIX SPOKED ASTERISK|MEDIUM SIX SPOKED ASTERISK|BOLD SIX SPOKED ASTERISK
1F7B8 |HEAVY SIX SPOKED ASTERISK|VERY HEAVY SIX SPOKED ASTERISK|EXTREMELY HEAVY SIX SPOKED ASTERISK
1F7BB |LIGHT EIGHT SPOKED ASTERISK|MEDIUM EIGHT SPOKED ASTERISK|BOLD EIGHT SPOKED ASTERISK
1F7BE |HEAVY EIGHT SPOKED ASTERISK|VERY HEAVY EIGHT SPOKED ASTERISK|LIGHT THREE POINTED BLACK STAR
1F7C1 |MEDIUM THREE POINTED BLACK STAR|THREE POINTED BLACK STAR|MEDIUM THREE POINTED PINWHEEL STAR
1F7C4 |LIGHT FOUR POINTED BLACK STAR|MEDIUM FOUR POINTED BLACK STAR|FOUR POINTED BLACK STAR
1F7C7 |MEDIUM FOUR POINTED PINWHEEL STAR|REVERSE LIGHT FOUR POINTED PINWHEEL STAR
1F7C9 |LIGHT FIVE POINTED BLACK STAR|HEAVY FIVE POINTED BLACK STAR|MEDIUM SIX POINTED BLACK STAR
1F7CC |HEAVY SIX POINTED BLACK STAR|SIX POINTED PINWHEEL STAR|MEDIUM EIGHT POINTED BLACK STAR
1F7CF |HEAVY EIGHT POINTED BLACK STAR|VERY HEAVY EIGHT POINTED BLACK STAR
1F7D1 |HEAVY EIGHT POINTED PINWHEEL STAR|LIGHT TWELVE POINTED BLACK STAR
1F7D3 HEAVY TWELVE POINTED |BLACK STAR|PINWHEEL STAR
1F7D5 |CIRCLED TRIANGLE|NEGATIVE CIRCLED TRIANGLE|CIRCLED SQUARE|NEGATIVE CIRCLED SQUARE
1F7E0 LARGE |ORANGE CIRCLE|YELLOW CIRCLE|GREEN CIRCLE|PURPLE CIRCLE|BROWN CIRCLE|RED SQUARE
1F7E6 LARGE |BLUE SQUARE|ORANGE SQUARE|YELLOW SQUARE|GREEN SQUARE|PURPLE SQUARE|BROWN SQUARE
1F7F0 |HEAVY EQUALS SIGN
1F800 |LEFTWARDS ARROW WITH SMALL TRIANGLE ARROWHEAD
1F801 |UPWARDS ARROW WITH SMALL TRIANGLE ARROWHEAD|RIGHTWARDS ARROW WITH SMALL TRIANGLE ARROWHEAD
1F803 |DOWNWARDS ARROW WITH SMALL TRIANGLE ARROWHEAD|LEFTWARDS ARROW WITH MEDIUM TRIANGLE ARROWHEAD
1F805 |UPWARDS ARROW WITH MEDIUM TRIANGLE ARROWHEAD|RIGHTWARDS ARROW WITH MEDIUM TRIANGLE ARROWHEAD
1F807 |DOWNWARDS ARROW WITH MEDIUM TRIANGLE ARROWHEAD
1F808 |LEFTWARDS ARROW WITH LARGE TRIANGLE ARROWHEAD|UPWARDS ARROW WITH LARGE TRIANGLE ARROWHEAD
1F80A |RIGHTWARDS ARROW WITH LARGE TRIANGLE ARROWHEAD|DOWNWARDS ARROW WITH LARGE TRIANGLE ARROWHEAD
1F810 |LEFTWARDS ARROW WITH SMALL EQUILATERAL ARROWHEAD
1F811 |UPWARDS ARROW WITH SMALL EQUILATERAL ARROWHEAD
1F812 |RIGHTWARDS ARROW WITH SMALL EQUILATERAL ARROWHEAD
1F813 |DOWNWARDS ARROW WITH SMALL EQUILATERAL ARROWHEAD
1F814 |LEFTWARDS ARROW WITH EQUILATERAL ARROWHEAD|UPWARDS ARROW WITH EQUILATERAL ARROWHEAD
1F816 |RIGHTWARDS ARROW WITH EQUILATERAL ARROWHEAD|DOWNWARDS ARROW WITH EQUILATERAL ARROWHEAD
1F818 HEAVY |LEFTWARDS ARROW WITH EQUILATERAL ARROWHEAD|UPWARDS ARROW WITH EQUILATERAL ARROWHEAD
1F81A HEAVY |RIGHTWARDS ARROW WITH EQUILATERAL ARROWHEAD|DOWNWARDS ARROW WITH EQUILATERAL ARROWHEAD
1F81C |HEAVY LEFTWARDS ARROW WITH LARGE EQUILATERAL ARROWHEAD
1F81D |HEAVY UPWARDS ARROW WITH LARGE EQUILATERAL ARROWHEAD
1F81E |HEAVY RIGHTWARDS ARROW WITH LARGE EQUILATERAL ARROWHEAD
1F81F |HEAVY DOWNWARDS ARROW WITH LARGE EQUILATERAL ARROWHEAD
1F820 |LEFTWARDS TRIANGLE-HEADED ARROW WITH NARROW SHAFT
1F821 |UPWARDS TRIANGLE-HEADED ARROW WITH NARROW SHAFT
1F822 |RIGHTWARDS TRIANGLE-HEADED ARROW WITH NARROW SHAFT
1F823 |DOWNWARDS TRIANGLE-HEADED ARROW WITH NARROW SHAFT
1F824 |LEFTWARDS TRIANGLE-HEADED ARROW WITH MEDIUM SHAFT
1F825 |UPWARDS TRIANGLE-HEADED ARROW WITH MEDIUM SHAFT
1F826 |RIGHTWARDS TRIANGLE-HEADED ARROW WITH MEDIUM SHAFT
1F827 |DOWNWARDS TRIANGLE-HEADED ARROW WITH MEDIUM SHAFT
1F828 |LEFTWARDS TRIANGLE-HEADED ARROW WITH BOLD SHAFT|UPWARDS TRIANGLE-HEADED ARROW WITH BOLD SHAFT
1F82A |RIGHTWARDS TRIANGLE-HEADED ARROW WITH BOLD SHAFT
1F82B |DOWNWARDS TRIANGLE-HEADED ARROW WITH BOLD SHAFT
1F82C |LEFTWARDS TRIANGLE-HEADED ARROW WITH HEAVY SHAFT
1F82D |UPWARDS TRIANGLE-HEADED ARROW WITH HEAVY SHAFT
1F82E |RIGHTWARDS TRIANGLE-HEADED ARROW WITH HEAVY SHAFT
1F82F |DOWNWARDS TRIANGLE-HEADED ARROW WITH HEAVY SHAFT
1F830 |LEFTWARDS TRIANGLE-HEADED ARROW WITH VERY HEAVY SHAFT
1F831 |UPWARDS TRIANGLE-HEADED ARROW WITH VERY HEAVY SHAFT
1F832 |RIGHTWARDS TRIANGLE-HEADED ARROW WITH VERY HEAVY SHAFT
1F833 |DOWNWARDS TRIANGLE-HEADED ARROW WITH VERY HEAVY SHAFT
1F834 |LEFTWARDS FINGER-POST ARROW|UPWARDS FINGER-POST ARROW
1F836 |RIGHTWARDS FINGER-POST ARROW|DOWNWARDS FINGER-POST ARROW|LEFTWARDS SQUARED ARROW
1F839 |UPWARDS SQUARED ARROW|RIGHTWARDS SQUARED ARROW|DOWNWARDS SQUARED ARROW
1F83C |LEFTWARDS COMPRESSED ARROW|UPWARDS COMPRESSED ARROW|RIGHTWARDS COMPRESSED ARROW
1F83F |DOWNWARDS COMPRESSED ARROW|LEFTWARDS HEAVY COMPRESSED ARROW|UPWARDS HEAVY COMPRESSED ARROW
1F842 |RIGHTWARDS HEAVY COMPRESSED ARROW|DOWNWARDS HEAVY COMPRESSED ARROW
1F844 |LEFTWARDS HEAVY ARROW|UPWARDS HEAVY ARROW|RIGHTWARDS HEAVY ARROW|DOWNWARDS HEAVY ARROW
1F850 |LEFTWARDS SANS-SERIF ARROW|UPWARDS SANS-SERIF ARROW|RIGHTWARDS SANS-SERIF ARROW
1F853 |DOWNWARDS SANS-SERIF ARROW|NORTH WEST SANS-SERIF ARROW|NORTH EAST SANS-SERIF ARROW
1F856 SOUTH |EAST SANS-SERIF ARROW|WEST SANS-SERIF ARROW
1F858 |LEFT RIGHT SANS-SERIF ARROW|UP DOWN SANS-SERIF ARROW
1F860 |WIDE-HEADED LEFTWARDS LIGHT BARB ARROW
1F861 WIDE-HEADED |UPWARDS LIGHT BARB ARROW|RIGHTWARDS LIGHT BARB ARROW|DOWNWARDS LIGHT BARB ARROW
1F864 WIDE-HEADED NORTH |WEST LIGHT BARB ARROW|EAST LIGHT BARB ARROW
1F866 WIDE-HEADED |SOUTH EAST LIGHT BARB ARROW|SOUTH WEST LIGHT BARB ARROW|LEFTWARDS BARB ARROW
1F869 WIDE-HEADED |UPWARDS BARB ARROW|RIGHTWARDS BARB ARROW|DOWNWARDS BARB ARROW
1F86C WIDE-HEADED |NORTH WEST BARB ARROW|NORTH EAST BARB ARROW|SOUTH EAST BARB ARROW
1F86F WIDE-HEADED |SOUTH WEST BARB ARROW|LEFTWARDS MEDIUM BARB ARROW|UPWARDS MEDIUM BARB ARROW
1F872 WIDE-HEADED |RIGHTWARDS MEDIUM BARB ARROW|DOWNWARDS MEDIUM BARB ARROW
1F874 WIDE-HEADED NORTH |WEST MEDIUM BARB ARROW|EAST MEDIUM BARB ARROW
1F876 WIDE-HEADED SOUTH |EAST MEDIUM BARB ARROW|WEST MEDIUM BARB ARROW
1F878 |WIDE-HEADED LEFTWARDS HEAVY BARB ARROW
1F879 WIDE-HEADED |UPWARDS HEAVY BARB ARROW|RIGHTWARDS HEAVY BARB ARROW|DOWNWARDS HEAVY BARB ARROW
1F87C WIDE-HEADED NORTH |WEST HEAVY BARB ARROW|EAST HEAVY BARB ARROW
1F87E WIDE-HEADED SOUTH |EAST HEAVY BARB ARROW|WEST HEAVY BARB ARROW
1F880 WIDE-HEADED |LEFTWARDS VERY HEAVY BARB ARROW|UPWARDS VERY HEAVY BARB ARROW
1F882 WIDE-HEADED |RIGHTWARDS VERY HEAVY BARB ARROW|DOWNWARDS VERY HEAVY BARB ARROW
1F884 WIDE-HEADED NORTH |WEST VERY HEAVY BARB ARROW|EAST VERY HEAVY BARB ARROW
1F886 WIDE-HEADED SOUTH |EAST VERY HEAVY BARB ARROW|WEST VERY HEAVY BARB ARROW
1F890 |LEFTWARDS TRIANGLE ARROWHEAD
1F891 |UPWARDS TRIANGLE ARROWHEAD|RIGHTWARDS TRIANGLE ARROWHEAD|DOWNWARDS TRIANGLE ARROWHEAD
1F894 |LEFTWARDS WHITE ARROW WITHIN TRIANGLE ARROWHEAD|UPWARDS WHITE ARROW WITHIN TRIANGLE ARROWHEAD
1F896 |RIGHTWARDS WHITE ARROW WITHIN TRIANGLE ARROWHEAD
1F897 |DOWNWARDS WHITE ARROW WITHIN TRIANGLE ARROWHEAD
1F898 |LEFTWARDS ARROW WITH NOTCHED TAIL|UPWARDS ARROW WITH NOTCHED TAIL
1F89A |RIGHTWARDS ARROW WITH NOTCHED TAIL|DOWNWARDS ARROW WITH NOTCHED TAIL
1F89C HEAVY ARROW SHAFT WIDTH |ONE|TWO THIRDS|ONE HALF|ONE THIRD
1F8A0 |LEFTWARDS BOTTOM-SHADED WHITE ARROW|RIGHTWARDS BOTTOM SHADED WHITE ARROW
1F8A2 |LEFTWARDS TOP SHADED WHITE ARROW|RIGHTWARDS TOP SHADED WHITE ARROW
1F8A4 |LEFTWARDS LEFT-SHADED WHITE ARROW|RIGHTWARDS RIGHT-SHADED WHITE ARROW
1F8A6 |LEFTWARDS RIGHT-SHADED WHITE ARROW|RIGHTWARDS LEFT-SHADED WHITE ARROW
1F8A8 |LEFTWARDS BACK-TILTED SHADOWED WHITE ARROW|RIGHTWARDS BACK-TILTED SHADOWED WHITE ARROW
1F8AA |LEFTWARDS FRONT-TILTED SHADOWED WHITE ARROW|RIGHTWARDS FRONT-TILTED SHADOWED WHITE ARROW
1F8AC WHITE ARROW SHAFT WIDTH |ONE|TWO THIRDS
1F8B0 ARROW POINTING |UPWARDS THEN NORTH WEST|RIGHTWARDS THEN CURVING SOUTH WEST
1F900 CIRCLED CROSS |FORMEE WITH FOUR DOTS|FORMEE WITH TWO DOTS|FORMEE
1F903 LEFT HALF CIRCLE WITH |FOUR DOTS|THREE DOTS|TWO DOTS|DOT
1F907 |LEFT HALF CIRCLE
1F908 DOWNWARD FACING |HOOK|NOTCHED HOOK|HOOK WITH DOT|NOTCHED HOOK WITH DOT
1F90C |PINCHED FINGERS|WHITE HEART|BROWN HEART|PINCHING HAND|ZIPPER-MOUTH FACE
1F911 |MONEY-MOUTH FACE|FACE WITH THERMOMETER|NERD FACE|THINKING FACE|FACE WITH HEAD-BANDAGE
1F916 |ROBOT FACE|HUGGING FACE|SIGN OF THE HORNS|CALL ME HAND|RAISED BACK OF HAND|LEFT-FACING FIST
1F91C |RIGHT-FACING FIST|HANDSHAKE|HAND WITH INDEX AND MIDDLE FINGERS CROSSED|I LOVE YOU HAND SIGN
1F920 |FACE WITH COWBOY HAT|CLOWN FACE|NAUSEATED FACE|ROLLING ON THE FLOOR LAUGHING
1F924 |DROOLING FACE|LYING FACE|FACE PALM|SNEEZING FACE|FACE WITH ONE EYEBROW RAISED
1F929 GRINNING FACE WITH |STAR EYES|ONE LARGE AND ONE SMALL EYE
1F92B |FACE WITH FINGER COVERING CLOSED LIPS|SERIOUS FACE WITH SYMBOLS COVERING MOUTH
1F92D |SMILING FACE WITH SMILING EYES AND HAND COVERING MOUTH
1F92E |FACE WITH OPEN MOUTH VOMITING|SHOCKED FACE WITH EXPLODING HEAD
1F930 |PREGNANT WOMAN|BREAST-FEEDING|PALMS UP TOGETHER|SELFIE|PRINCE
1F935 |MAN IN TUXEDO|MOTHER CHRISTMAS|SHRUG|PERSON DOING CARTWHEEL|JUGGLING|FENCER|MODERN PENTATHLON
1F93C |WRESTLERS|WATER POLO|HANDBALL|DIVING MASK|WILTED FLOWER|DRUM WITH DRUMSTICKS
1F942 |CLINKING GLASSES|TUMBLER GLASS|SPOON|GOAL NET|RIFLE|FIRST PLACE MEDAL|SECOND PLACE MEDAL
1F949 |THIRD PLACE MEDAL|BOXING GLOVE|MARTIAL ARTS UNIFORM|CURLING STONE|LACROSSE STICK AND BALL
1F94E |SOFTBALL|FLYING DISC|CROISSANT|AVOCADO|CUCUMBER|BACON|POTATO|CARROT|BAGUETTE BREAD
1F957 |GREEN SALAD|SHALLOW PAN OF FOOD|STUFFED FLATBREAD|EGG|GLASS OF MILK|PEANUTS|KIWIFRUIT
1F95E |PANCAKES|DUMPLING|FORTUNE COOKIE|TAKEOUT BOX|CHOPSTICKS|BOWL WITH SPOON|CUP WITH STRAW
1F965 |COCONUT|BROCCOLI|PIE|PRETZEL|CUT OF MEAT|SANDWICH|CANNED FOOD|LEAFY GREEN|MANGO|MOON CAKE
1F96F |BAGEL|SMILING FACE WITH SMILING EYES AND THREE HEARTS|YAWNING FACE|SMILING FACE WITH TEAR
1F973 FACE WITH |PARTY HORN AND PARTY HAT|UNEVEN EYES AND WAVY MOUTH
1F975 |OVERHEATED FACE|FREEZING FACE|NINJA|DISGUISED FACE|FACE HOLDING BACK TEARS
1F97A |FACE WITH PLEADING EYES|SARI|LAB COAT|GOGGLES|HIKING BOOT|FLAT SHOE|CRAB|LION FACE
1F982 |SCORPION|TURKEY|UNICORN FACE|EAGLE|DUCK|BAT|SHARK|OWL|FOX FACE|BUTTERFLY|DEER|GORILLA|LIZARD
1F98F |RHINOCEROS|SHRIMP|SQUID|GIRAFFE FACE|ZEBRA FACE|HEDGEHOG|SAUROPOD|T-REX|CRICKET|KANGAROO
1F999 |LLAMA|PEACOCK|HIPPOPOTAMUS|PARROT|RACCOON|LOBSTER|MOSQUITO|MICROBE|BADGER|SWAN|MAMMOTH
1F9A4 |DODO|SLOTH|OTTER|ORANGUTAN|SKUNK|FLAMINGO|OYSTER|BEAVER|BISON|SEAL|GUIDE DOG|PROBING CANE
1F9B0 EMOJI COMPONENT |RED HAIR|CURLY HAIR|BALD|WHITE HAIR
1F9B4 |BONE|LEG|FOOT|TOOTH|SUPERHERO
1F9B9 |SUPERVILLAIN|SAFETY VEST|EAR WITH HEARING AID|MOTORIZED WHEELCHAIR|MANUAL WHEELCHAIR
1F9BE MECHANICAL |ARM|LEG
1F9C0 |CHEESE WEDGE|CUPCAKE|SALT SHAKER|BEVERAGE BOX
1F9C4 |GARLIC|ONION|FALAFEL|WAFFLE|BUTTER|MATE DRINK|ICE CUBE|BUBBLE TEA|TROLL|STANDING PERSON
1F9CE |KNEELING PERSON|DEAF PERSON|FACE WITH MONOCLE|ADULT|CHILD|OLDER ADULT|BEARDED PERSON
1F9D5 PERSON |WITH HEADSCARF|IN STEAMY ROOM|CLIMBING|IN LOTUS POSITION
1F9D9 |MAGE|FAIRY|VAMPIRE|MERPERSON
1F9DD |ELF|GENIE|ZOMBIE|BRAIN|ORANGE HEART|BILLED CAP|SCARF|GLOVES|COAT|SOCKS|RED GIFT ENVELOPE
1F9E8 |FIRECRACKER|JIGSAW PUZZLE PIECE|TEST TUBE|PETRI DISH|DNA DOUBLE HELIX|COMPASS|ABACUS
1F9EF |FIRE EXTINGUISHER|TOOLBOX|BRICK|MAGNET|LUGGAGE|LOTION BOTTLE|SPOOL OF THREAD|BALL OF YARN
1F9F7 |SAFETY PIN|TEDDY BEAR|BROOM|BASKET|ROLL OF PAPER|BAR OF SOAP|SPONGE|RECEIPT|NAZAR AMULET
1FA00 NEUTRAL CHESS |KING|QUEEN|ROOK|BISHOP|KNIGHT|PAWN
1FA06 |WHITE CHESS KNIGHT ROTATED FORTY-FIVE DEGREES
1FA07 |BLACK CHESS KNIGHT ROTATED FORTY-FIVE DEGREES|NEUTRAL CHESS KNIGHT ROTATED FORTY-FIVE DEGREES
1FA09 WHITE CHESS |KING ROTATED NINETY DEGREES|QUEEN ROTATED NINETY DEGREES
1FA0B WHITE CHESS |ROOK ROTATED NINETY DEGREES|BISHOP ROTATED NINETY DEGREES
1FA0D WHITE CHESS |KNIGHT ROTATED NINETY DEGREES|PAWN ROTATED NINETY DEGREES
1FA0F BLACK CHESS |KING ROTATED NINETY DEGREES|QUEEN ROTATED NINETY DEGREES
1FA11 BLACK CHESS |ROOK ROTATED NINETY DEGREES|BISHOP ROTATED NINETY DEGREES
1FA13 BLACK CHESS |KNIGHT ROTATED NINETY DEGREES|PAWN ROTATED NINETY DEGREES
1FA15 NEUTRAL CHESS |KING ROTATED NINETY DEGREES|QUEEN ROTATED NINETY DEGREES
1FA17 NEUTRAL CHESS |ROOK ROTATED NINETY DEGREES|BISHOP ROTATED NINETY DEGREES
1FA19 NEUTRAL CHESS |KNIGHT ROTATED NINETY DEGREES|PAWN ROTATED NINETY DEGREES
1FA1B |WHITE CHESS KNIGHT ROTATED ONE HUNDRED THIRTY-FIVE DEGREES
1FA1C |BLACK CHESS KNIGHT ROTATED ONE HUNDRED THIRTY-FIVE DEGREES
1FA1D |NEUTRAL CHESS KNIGHT ROTATED ONE HUNDRED THIRTY-FIVE DEGREES
1FA1E WHITE CHESS TURNED |KING|QUEEN|ROOK|BISHOP|KNIGHT|PAWN
1FA24 BLACK CHESS TURNED |KING|QUEEN|ROOK|BISHOP|KNIGHT|PAWN
1FA2A NEUTRAL CHESS TURNED |KING|QUEEN|ROOK|BISHOP|KNIGHT|PAWN
1FA30 |WHITE CHESS KNIGHT ROTATED TWO HUNDRED TWENTY-FIVE DEGREES
1FA31 |BLACK CHESS KNIGHT ROTATED TWO HUNDRED TWENTY-FIVE DEGREES
1FA32 |NEUTRAL CHESS KNIGHT ROTATED TWO HUNDRED TWENTY-FIVE DEGREES
1FA33 |WHITE CHESS KING ROTATED TWO HUNDRED SEVENTY DEGREES
1FA34 |WHITE CHESS QUEEN ROTATED TWO HUNDRED SEVENTY DEGREES
1FA35 |WHITE CHESS ROOK ROTATED TWO HUNDRED SEVENTY DEGREES
1FA36 |WHITE CHESS BISHOP ROTATED TWO HUNDRED SEVENTY DEGREES
1FA37 |WHITE CHESS KNIGHT ROTATED TWO HUNDRED SEVENTY DEGREES
1FA38 |WHITE CHESS PAWN ROTATED TWO HUNDRED SEVENTY DEGREES
1FA39 |BLACK CHESS KING ROTATED TWO HUNDRED SEVENTY DEGREES
1FA3A |BLACK CHESS QUEEN ROTATED TWO HUNDRED SEVENTY DEGREES
1FA3B |BLACK CHESS ROOK ROTATED TWO HUNDRED SEVENTY DEGREES
1FA3C |BLACK CHESS BISHOP ROTATED TWO HUNDRED SEVENTY DEGREES
1FA3D |BLACK CHESS KNIGHT ROTATED TWO HUNDRED SEVENTY DEGREES
1FA3E |BLACK CHESS PAWN ROTATED TWO HUNDRED SEVENTY DEGREES
1FA3F |NEUTRAL CHESS KING ROTATED TWO HUNDRED SEVENTY DEGREES
1FA40 |NEUTRAL CHESS QUEEN ROTATED TWO HUNDRED SEVENTY DEGREES
1FA41 |NEUTRAL CHESS ROOK ROTATED TWO HUNDRED SEVENTY DEGREES
1FA42 |NEUTRAL CHESS BISHOP ROTATED TWO HUNDRED SEVENTY DEGREES
1FA43 |NEUTRAL CHESS KNIGHT ROTATED TWO HUNDRED SEVENTY DEGREES
1FA44 |NEUTRAL CHESS PAWN ROTATED TWO HUNDRED SEVENTY DEGREES
1FA45 |WHITE CHESS KNIGHT ROTATED THREE HUNDRED FIFTEEN DEGREES
1FA46 |BLACK CHESS KNIGHT ROTATED THREE HUNDRED FIFTEEN DEGREES
1FA47 |NEUTRAL CHESS KNIGHT ROTATED THREE HUNDRED FIFTEEN DEGREES|WHITE CHESS EQUIHOPPER
1FA49 |BLACK CHESS EQUIHOPPER|NEUTRAL CHESS EQUIHOPPER|WHITE CHESS EQUIHOPPER ROTATED NINETY DEGREES
1FA4C |BLACK CHESS EQUIHOPPER ROTATED NINETY DEGREES|NEUTRAL CHESS EQUIHOPPER ROTATED NINETY DEGREES
1FA4E WHITE CHESS |KNIGHT-QUEEN|KNIGHT-ROOK|KNIGHT-BISHOP
1FA51 BLACK CHESS |KNIGHT-QUEEN|KNIGHT-ROOK|KNIGHT-BISHOP
1FA60 XIANGQI RED |GENERAL|MANDARIN|ELEPHANT|HORSE|CHARIOT|CANNON|SOLDIER
1FA67 XIANGQI BLACK |GENERAL|MANDARIN|ELEPHANT|HORSE|CHARIOT|CANNON|SOLDIER
1FA70 |BALLET SHOES|ONE-PIECE SWIMSUIT|BRIEFS|SHORTS|THONG SANDAL
1FA78 |DROP OF BLOOD|ADHESIVE BANDAGE|STETHOSCOPE|X-RAY|CRUTCH
1FA80 |YO-YO|KITE|PARACHUTE|BOOMERANG|MAGIC WAND|PINATA|NESTING DOLLS
1FA90 |RINGED PLANET
1FA91 |CHAIR|RAZOR|AXE|DIYA LAMP|BANJO|MILITARY HELMET|ACCORDION|LONG DRUM|COIN|CARPENTRY SAW
1FA9B |SCREWDRIVER|LADDER|HOOK|MIRROR|WINDOW|PLUNGER|SEWING NEEDLE|KNOT|BUCKET|MOUSE TRAP
1FAA5 |TOOTHBRUSH|HEADSTONE|PLACARD|ROCK|MIRROR BALL|IDENTIFICATION CARD|LOW BATTERY|HAMSA
1FAB0 |FLY|WORM|BEETLE|COCKROACH|POTTED PLANT|WOOD|FEATHER|LOTUS|CORAL|EMPTY NEST|NEST WITH EGGS
1FAC0 |ANATOMICAL HEART|LUNGS|PEOPLE HUGGING|PREGNANT MAN|PREGNANT PERSON|PERSON WITH CROWN
1FAD0 |BLUEBERRIES|BELL PEPPER|OLIVE|FLATBREAD|TAMALE|FONDUE|TEAPOT|POURING LIQUID|BEANS|JAR
1FAE0 |MELTING FACE|SALUTING FACE
1FAE2 FACE WITH |OPEN EYES AND HAND OVER MOUTH|PEEKING EYE|DIAGONAL MOUTH
1FAE5 |DOTTED LINE FACE|BITING LIP|BUBBLES
1FAF0 |HAND WITH INDEX FINGER AND THUMB CROSSED|RIGHTWARDS HAND
1FAF2 |LEFTWARDS HAND|PALM DOWN HAND|PALM UP HAND|INDEX POINTING AT THE VIEWER|HEART HANDS
1FB00 BLOCK |SEXTANT-1|SEXTANT-2|SEXTANT-12|SEXTANT-3|SEXTANT-13|SEXTANT-23
1FB06 BLOCK |SEXTANT-123|SEXTANT-4|SEXTANT-14|SEXTANT-24|SEXTANT-124|SEXTANT-34|SEXTANT-134
1FB0D BLOCK |SEXTANT-234|SEXTANT-1234|SEXTANT-5|SEXTANT-15|SEXTANT-25|SEXTANT-125|SEXTANT-35
1FB14 BLOCK |SEXTANT-235|SEXTANT-1235|SEXTANT-45|SEXTANT-145|SEXTANT-245|SEXTANT-1245|SEXTANT-345
1FB1B BLOCK |SEXTANT-1345|SEXTANT-2345|SEXTANT-12345|SEXTANT-6|SEXTANT-16|SEXTANT-26|SEXTANT-126
1FB22 BLOCK |SEXTANT-36|SEXTANT-136|SEXTANT-236|SEXTANT-1236|SEXTANT-46|SEXTANT-146|SEXTANT-1246
1FB29 BLOCK |SEXTANT-346|SEXTANT-1346|SEXTANT-2346|SEXTANT-12346|SEXTANT-56|SEXTANT-156|SEXTANT-256
1FB30 BLOCK |SEXTANT-1256|SEXTANT-356|SEXTANT-1356|SEXTANT-2356|SEXTANT-12356|SEXTANT-456
1FB36 BLOCK |SEXTANT-1456|SEXTANT-2456|SEXTANT-12456|SEXTANT-3456|SEXTANT-13456|SEXTANT-23456
1FB3C LOWER LEFT BLOCK DIAGONAL LOWER MIDDLE LEFT TO LOWER |CENTRE|RIGHT
1FB3E LOWER LEFT BLOCK DIAGONAL UPPER MIDDLE LEFT TO LOWER |CENTRE|RIGHT
1FB40 |LOWER LEFT BLOCK DIAGONAL UPPER LEFT TO LOWER CENTRE
1FB41 LOWER RIGHT BLOCK DIAGONAL UPPER MIDDLE LEFT TO UPPER |CENTRE|RIGHT
1FB43 LOWER RIGHT BLOCK DIAGONAL LOWER MIDDLE LEFT TO UPPER |CENTRE|RIGHT
1FB45 LOWER RIGHT BLOCK DIAGONAL LOWER |LEFT TO UPPER CENTRE|MIDDLE LEFT TO UPPER MIDDLE RIGHT
1FB47 |LOWER RIGHT BLOCK DIAGONAL LOWER CENTRE TO LOWER MIDDLE RIGHT
1FB48 LOWER RIGHT BLOCK DIAGONAL LOWER |LEFT TO LOWER MIDDLE RIGHT|CENTRE TO UPPER MIDDLE RIGHT
1FB4A LOWER RIGHT BLOCK DIAGONAL LOWER |LEFT TO UPPER MIDDLE RIGHT|CENTRE TO UPPER RIGHT
1FB4C LOWER LEFT BLOCK DIAGONAL UPPER |CENTRE TO UPPER MIDDLE RIGHT|LEFT TO UPPER MIDDLE RIGHT
1FB4E LOWER LEFT BLOCK DIAGONAL UPPER |CENTRE TO LOWER MIDDLE RIGHT|LEFT TO LOWER MIDDLE RIGHT
1FB50 LOWER LEFT BLOCK DIAGONAL UPPER |CENTRE TO LOWER RIGHT|MIDDLE LEFT TO LOWER MIDDLE RIGHT
1FB52 UPPER RIGHT BLOCK DIAGONAL LOWER MIDDLE LEFT TO LOWER |CENTRE|RIGHT
1FB54 UPPER RIGHT BLOCK DIAGONAL UPPER MIDDLE LEFT TO LOWER |CENTRE|RIGHT
1FB56 |UPPER RIGHT BLOCK DIAGONAL UPPER LEFT TO LOWER CENTRE
1FB57 UPPER LEFT BLOCK DIAGONAL UPPER MIDDLE LEFT TO UPPER |CENTRE|RIGHT
1FB59 UPPER LEFT BLOCK DIAGONAL LOWER MIDDLE LEFT TO UPPER |CENTRE|RIGHT
1FB5B UPPER LEFT BLOCK DIAGONAL LOWER |LEFT TO UPPER CENTRE|MIDDLE LEFT TO UPPER MIDDLE RIGHT
1FB5D |UPPER LEFT BLOCK DIAGONAL LOWER CENTRE TO LOWER MIDDLE RIGHT
1FB5E UPPER LEFT BLOCK DIAGONAL LOWER |LEFT TO LOWER MIDDLE RIGHT|CENTRE TO UPPER MIDDLE RIGHT
1FB60 UPPER LEFT BLOCK DIAGONAL LOWER |LEFT TO UPPER MIDDLE RIGHT|CENTRE TO UPPER RIGHT
1FB62 UPPER RIGHT BLOCK DIAGONAL UPPER |CENTRE TO UPPER MIDDLE RIGHT|LEFT TO UPPER MIDDLE RIGHT
1FB64 UPPER RIGHT BLOCK DIAGONAL UPPER |CENTRE TO LOWER MIDDLE RIGHT|LEFT TO LOWER MIDDLE RIGHT
1FB66 UPPER RIGHT BLOCK DIAGONAL UPPER |CENTRE TO LOWER RIGHT|MIDDLE LEFT TO LOWER MIDDLE RIGHT
1FB68 |UPPER AND RIGHT AND LOWER TRIANGULAR THREE QUARTERS BLOCK
1FB69 |LEFT AND LOWER AND RIGHT TRIANGULAR THREE QUARTERS BLOCK
1FB6A |UPPER AND LEFT AND LOWER TRIANGULAR THREE QUARTERS BLOCK
1FB6B LEFT |AND UPPER AND RIGHT TRIANGULAR THREE QUARTERS BLOCK|TRIANGULAR ONE QUARTER BLOCK
1FB6D |UPPER TRIANGULAR ONE QUARTER BLOCK
1FB6E |RIGHT TRIANGULAR ONE QUARTER BLOCK|LOWER TRIANGULAR ONE QUARTER BLOCK
1FB70 VERTICAL ONE EIGHTH |BLOCK-2|BLOCK-3|BLOCK-4|BLOCK-5|BLOCK-6|BLOCK-7
1FB76 HORIZONTAL ONE EIGHTH |BLOCK-2|BLOCK-3|BLOCK-4|BLOCK-5|BLOCK-6|BLOCK-7
1FB7C LEFT AND |LOWER ONE EIGHTH BLOCK|UPPER ONE EIGHTH BLOCK
1FB7E RIGHT AND |UPPER ONE EIGHTH BLOCK|LOWER ONE EIGHTH BLOCK
1FB80 |UPPER AND LOWER ONE EIGHTH BLOCK|HORIZONTAL ONE EIGHTH BLOCK-1358|UPPER ONE QUARTER BLOCK
1FB83 UPPER |THREE EIGHTHS BLOCK|FIVE EIGHTHS BLOCK|THREE QUARTERS BLOCK|SEVEN EIGHTHS BLOCK
1FB87 RIGHT |ONE QUARTER BLOCK|THREE EIGHTHS BLOCK|FIVE EIGHTHS BLOCK|THREE QUARTERS BLOCK
1FB8B |RIGHT SEVEN EIGHTHS BLOCK|LEFT HALF MEDIUM SHADE
1FB8D |RIGHT HALF MEDIUM SHADE|UPPER HALF MEDIUM SHADE|LOWER HALF MEDIUM SHADE
1FB90 |INVERSE MEDIUM SHADE|UPPER HALF BLOCK AND LOWER HALF INVERSE MEDIUM SHADE
1FB92 |UPPER HALF INVERSE MEDIUM SHADE AND LOWER HALF BLOCK
1FB94 |LEFT HALF INVERSE MEDIUM SHADE AND RIGHT HALF BLOCK
1FB95 |CHECKER BOARD FILL|INVERSE CHECKER BOARD FILL|HEAVY HORIZONTAL FILL
1FB98 UPPER |LEFT TO LOWER RIGHT FILL|RIGHT TO LOWER LEFT FILL|AND LOWER TRIANGULAR HALF BLOCK
1FB9B |LEFT AND RIGHT TRIANGULAR HALF BLOCK
1FB9C UPPER |LEFT TRIANGULAR MEDIUM SHADE|RIGHT TRIANGULAR MEDIUM SHADE
1FB9E LOWER |RIGHT TRIANGULAR MEDIUM SHADE|LEFT TRIANGULAR MEDIUM SHADE
1FBA0 BOX DRAWINGS LIGHT DIAGONAL UPPER CENTRE TO MIDDLE |LEFT|RIGHT
1FBA2 BOX DRAWINGS LIGHT DIAGONAL MIDDLE |LEFT TO LOWER CENTRE|RIGHT TO LOWER CENTRE
1FBA4 BOX DRAWINGS LIGHT DIAGONAL UPPER CENTRE TO MIDDLE |LEFT TO LOWER CENTRE|RIGHT TO LOWER CENTRE
1FBA6 |BOX DRAWINGS LIGHT DIAGONAL MIDDLE LEFT TO LOWER CENTRE TO MIDDLE RIGHT
1FBA7 |BOX DRAWINGS LIGHT DIAGONAL MIDDLE LEFT TO UPPER CENTRE TO MIDDLE RIGHT
1FBA8 |BOX DRAWINGS LIGHT DIAGONAL UPPER CENTRE TO MIDDLE LEFT AND MIDDLE RIGHT TO LOWER CENTRE
1FBA9 |BOX DRAWINGS LIGHT DIAGONAL UPPER CENTRE TO MIDDLE RIGHT AND MIDDLE LEFT TO LOWER CENTRE
1FBAA |BOX DRAWINGS LIGHT DIAGONAL UPPER CENTRE TO MIDDLE RIGHT TO LOWER CENTRE TO MIDDLE LEFT
1FBAB |BOX DRAWINGS LIGHT DIAGONAL UPPER CENTRE TO MIDDLE LEFT TO LOWER CENTRE TO MIDDLE RIGHT
1FBAC |BOX DRAWINGS LIGHT DIAGONAL MIDDLE LEFT TO UPPER CENTRE TO MIDDLE RIGHT TO LOWER CENTRE
1FBAD |BOX DRAWINGS LIGHT DIAGONAL MIDDLE RIGHT TO UPPER CENTRE TO MIDDLE LEFT TO LOWER CENTRE
1FBAE BOX DRAWINGS LIGHT |DIAGONAL DIAMOND|HORIZONTAL WITH VERTICAL STROKE
1FBB0 |ARROWHEAD-SHAPED POINTER|INVERSE CHECK MARK
1FBB2 |LEFT HALF RUNNING MAN|RIGHT HALF RUNNING MAN|INVERSE DOWNWARDS ARROW WITH TIP LEFTWARDS
1FBB5 |LEFTWARDS ARROW AND UPPER AND LOWER ONE EIGHTH BLOCK
1FBB6 |RIGHTWARDS ARROW AND UPPER AND LOWER ONE EIGHTH BLOCK
1FBB7 |DOWNWARDS ARROW AND RIGHT ONE EIGHTH BLOCK|UPWARDS ARROW AND RIGHT ONE EIGHTH BLOCK
1FBB9 |LEFT HALF FOLDER|RIGHT HALF FOLDER|VOIDED GREEK CROSS|RIGHT OPEN SQUARED DOT
1FBBD NEGATIVE DIAGONAL |CROSS|MIDDLE RIGHT TO LOWER CENTRE|DIAMOND
1FBC0 |WHITE HEAVY SALTIRE WITH ROUNDED CORNERS
1FBC1 |LEFT THIRD WHITE RIGHT POINTING INDEX|MIDDLE THIRD WHITE RIGHT POINTING INDEX
1FBC3 |RIGHT THIRD WHITE RIGHT POINTING INDEX|NEGATIVE SQUARED QUESTION MARK|STICK FIGURE
1FBC6 STICK FIGURE |WITH ARMS RAISED|LEANING LEFT|LEANING RIGHT|WITH DRESS
1FBCA |WHITE UP-POINTING CHEVRON
1FBF0 SEGMENTED DIGIT |ZERO|ONE|TWO|THREE|FOUR|FIVE|SIX|SEVEN|EIGHT|NINE
E0001 |LANGUAGE TAG
E0020 TAG |SPACE|EXCLAMATION MARK
E0022 TAG |QUOTATION MARK|NUMBER SIGN|DOLLAR SIGN|PERCENT SIGN|AMPERSAND|APOSTROPHE|LEFT PARENTHESIS
E0029 TAG |RIGHT PARENTHESIS|ASTERISK|PLUS SIGN|COMMA|HYPHEN-MINUS|FULL STOP|SOLIDUS
E0030 TAG DIGIT |ZERO|ONE|TWO|THREE|FOUR|FIVE|SIX|SEVEN|EIGHT|NINE
E003A TAG |COLON|SEMICOLON|LESS-THAN SIGN|EQUALS SIGN|GREATER-THAN SIGN|QUESTION MARK|COMMERCIAL AT
E0041 TAG LATIN CAPITAL LETTER |A|B|C|D|E|F|G|H|I|J|K|L|M|N|O|P|Q|R|S|T|U|V|W|X|Y|Z
E005B |TAG LEFT SQUARE BRACKET
E005C TAG |REVERSE SOLIDUS|RIGHT SQUARE BRACKET|CIRCUMFLEX ACCENT|LOW LINE|GRAVE ACCENT
E0061 TAG LATIN SMALL LETTER |A|B|C|D|E|F|G|H|I|J|K|L|M|N|O|P|Q|R|S|T|U|V|W|X|Y|Z
E007B TAG |LEFT CURLY BRACKET|VERTICAL LINE|RIGHT CURLY BRACKET|TILDE
E007F |CANCEL TAG
E0100 |VARIATION SELECTOR-17
E0101 VARIATION |SELECTOR-18|SELECTOR-19|SELECTOR-20|SELECTOR-21|SELECTOR-22|SELECTOR-23|SELECTOR-24
E0108 VARIATION |SELECTOR-25|SELECTOR-26|SELECTOR-27|SELECTOR-28|SELECTOR-29|SELECTOR-30|SELECTOR-31
E010F VARIATION |SELECTOR-32|SELECTOR-33|SELECTOR-34|SELECTOR-35|SELECTOR-36|SELECTOR-37|SELECTOR-38
E0116 VARIATION |SELECTOR-39|SELECTOR-40|SELECTOR-41|SELECTOR-42|SELECTOR-43|SELECTOR-44|SELECTOR-45
E011D VARIATION |SELECTOR-46|SELECTOR-47|SELECTOR-48|SELECTOR-49|SELECTOR-50|SELECTOR-51|SELECTOR-52
E0124 VARIATION |SELECTOR-53|SELECTOR-54|SELECTOR-55|SELECTOR-56|SELECTOR-57|SELECTOR-58|SELECTOR-59
E012B VARIATION |SELECTOR-60|SELECTOR-61|SELECTOR-62|SELECTOR-63|SELECTOR-64|SELECTOR-65|SELECTOR-66
E0132 VARIATION |SELECTOR-67|SELECTOR-68|SELECTOR-69|SELECTOR-70|SELECTOR-71|SELECTOR-72|SELECTOR-73
E0139 VARIATION |SELECTOR-74|SELECTOR-75|SELECTOR-76|SELECTOR-77|SELECTOR-78|SELECTOR-79|SELECTOR-80
E0140 VARIATION |SELECTOR-81|SELECTOR-82|SELECTOR-83|SELECTOR-84|SELECTOR-85|SELECTOR-86|SELECTOR-87
E0147 VARIATION |SELECTOR-88|SELECTOR-89|SELECTOR-90|SELECTOR-91|SELECTOR-92|SELECTOR-93|SELECTOR-94
E014E VARIATION |SELECTOR-95|SELECTOR-96|SELECTOR-97|SELECTOR-98|SELECTOR-99|SELECTOR-100
E0154 VARIATION |SELECTOR-101|SELECTOR-102|SELECTOR-103|SELECTOR-104|SELECTOR-105|SELECTOR-106
E015A VARIATION |SELECTOR-107|SELECTOR-108|SELECTOR-109|SELECTOR-110|SELECTOR-111|SELECTOR-112
E0160 VARIATION |SELECTOR-113|SELECTOR-114|SELECTOR-115|SELECTOR-116|SELECTOR-117|SELECTOR-118
E0166 VARIATION |SELECTOR-119|SELECTOR-120|SELECTOR-121|SELECTOR-122|SELECTOR-123|SELECTOR-124
E016C VARIATION |SELECTOR-125|SELECTOR-126|SELECTOR-127|SELECTOR-128|SELECTOR-129|SELECTOR-130
E0172 VARIATION |SELECTOR-131|SELECTOR-132|SELECTOR-133|SELECTOR-134|SELECTOR-135|SELECTOR-136
E0178 VARIATION |SELECTOR-137|SELECTOR-138|SELECTOR-139|SELECTOR-140|SELECTOR-141|SELECTOR-142
E017E VARIATION |SELECTOR-143|SELECTOR-144|SELECTOR-145|SELECTOR-146|SELECTOR-147|SELECTOR-148
E0184 VARIATION |SELECTOR-149|SELECTOR-150|SELECTOR-151|SELECTOR-152|SELECTOR-153|SELECTOR-154
E018A VARIATION |SELECTOR-155|SELECTOR-156|SELECTOR-157|SELECTOR-158|SELECTOR-159|SELECTOR-160
E0190 VARIATION |SELECTOR-161|SELECTOR-162|SELECTOR-163|SELECTOR-164|SELECTOR-165|SELECTOR-166
E0196 VARIATION |SELECTOR-167|SELECTOR-168|SELECTOR-169|SELECTOR-170|SELECTOR-171|SELECTOR-172
E019C VARIATION |SELECTOR-173|SELECTOR-174|SELECTOR-175|SELECTOR-176|SELECTOR-177|SELECTOR-178
E01A2 VARIATION |SELECTOR-179|SELECTOR-180|SELECTOR-181|SELECTOR-182|SELECTOR-183|SELECTOR-184
E01A8 VARIATION |SELECTOR-185|SELECTOR-186|SELECTOR-187|SELECTOR-188|SELECTOR-189|SELECTOR-190
E01AE VARIATION |SELECTOR-191|SELECTOR-192|SELECTOR-193|SELECTOR-194|SELECTOR-195|SELECTOR-196
E01B4 VARIATION |SELECTOR-197|SELECTOR-198|SELECTOR-199|SELECTOR-200|SELECTOR-201|SELECTOR-202
E01BA VARIATION |SELECTOR-203|SELECTOR-204|SELECTOR-205|SELECTOR-206|SELECTOR-207|SELECTOR-208
E01C0 VARIATION |SELECTOR-209|SELECTOR-210|SELECTOR-211|SELECTOR-212|SELECTOR-213|SELECTOR-214
E01C6 VARIATION |SELECTOR-215|SELECTOR-216|SELECTOR-217|SELECTOR-218|SELECTOR-219|SELECTOR-220
E01CC VARIATION |SELECTOR-221|SELECTOR-222|SELECTOR-223|SELECTOR-224|SELECTOR-225|SELECTOR-226
E01D2 VARIATION |SELECTOR-227|SELECTOR-228|SELECTOR-229|SELECTOR-230|SELECTOR-231|SELECTOR-232
E01D8 VARIATION |SELECTOR-233|SELECTOR-234|SELECTOR-235|SELECTOR-236|SELECTOR-237|SELECTOR-238
E01DE VARIATION |SELECTOR-239|SELECTOR-240|SELECTOR-241|SELECTOR-242|SELECTOR-243|SELECTOR-244
E01E4 VARIATION |SELECTOR-245|SELECTOR-246|SELECTOR-247|SELECTOR-248|SELECTOR-249|SELECTOR-250
E01EA VARIATION |SELECTOR-251|SELECTOR-252|SELECTOR-253|SELECTOR-254|SELECTOR-255|SELECTOR-256
"

end ContentBlocker.Text.CharacterName
